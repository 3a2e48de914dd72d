import ApiScaffold.Config.Decode
import ApiScaffold.Config.Encode
import ApiScaffold.Proofs.Data.Record
import ApiScaffold.Proofs.Data.Written

/-!
# Run configurations are read back

Every part of a run configuration is decoded again from what is written for it, from dialects and methods
up to whole configurations (`RunConfig.readsBack`). The one condition is that no map holds a name twice
(`RunConfig.DistinctKeys`), and decoded configurations meet it.
-/

namespace ApiScaffold

open Data (ReadsBack setAll)

/-! ### Leaves -/

/-- Each test module is read by the name that it is written under. -/
theorem TestModule.readsBack (m : TestModule) : ReadsBack TestModule.decode (fun m => .str m.name) m := by
  cases m <;> rfl

theorem AssertionStyle.readsBack (s : AssertionStyle) :
    ReadsBack AssertionStyle.decode (fun s => .str s.name) s := by
  cases s <;> rfl

/-- Keys of methods are lowercase. -/
theorem Method.lowercase_key (m : Method) :
    String.ofList (Unicode.lowercase m.key.toList) = m.key := by
  cases m <;> decide +kernel

/-- Methods are written by their key in lower case, and read by it. -/
theorem Method.readsBack (m : Method) : ReadsBack Method.decode (fun m => .str m.key) m := by
  refine Built.bind_eq_ok.mpr ⟨m.key, rfl, ?_⟩
  dsimp only
  rw [lowercase_key, ofKey?_key]

/-- Texts of a list are read back. -/
theorem Data.readsBack_strings (items : List String) :
    ReadsBack (fun d => d.list Data.text) Json.strings items :=
  ReadsBack.list fun _ _ => rfl

theorem LoadSettings.readsBack_count (n : UInt32) :
    ReadsBack LoadSettings.count (fun n => .int n.toNat) n := by
  rw [ReadsBack, LoadSettings.count, Data.readsBack_natural n.toNat_lt]
  exact congrArg Except.ok n.ofNat_toNat

theorem RunConfig.readsBack_width (n : UInt64) :
    ReadsBack RunConfig.width (fun n => .int n.toNat) n := by
  rw [ReadsBack, RunConfig.width, Data.readsBack_natural n.toNat_lt]
  exact congrArg Except.ok n.ofNat_toNat

/-- Pools whose objects have distinct keys are read back. -/
theorem RunConfig.readsBack_values {pool : ValuePool} (h : (Json.obj pool).DistinctKeys) :
    ReadsBack RunConfig.values .obj pool := by
  cases h with
  | obj names hvalues =>
    have hread := ReadsBack.entries names fun e he => Data.readsBack_json (hvalues e he)
    have hsame : Entries.mapValues id pool = pool := List.map_id _
    rwa [ReadsBack, hsame] at hread

/-! ### Operations to load-test -/

/-- **Load settings** are read back, counts and all. -/
theorem LoadSettings.readsBack (load : LoadSettings) : ReadsBack LoadSettings.decode toJson load := by
  have hrequests : setAll set (Json.fieldIfAny "requests" (fun n => .int n.toNat) load.requests) {} =
      .ok { requests := load.requests } := by
    refine Data.setAll_fieldIfAny (fun h => by rw [h]) fun n h => ?_
    rw [h]
    exact Built.bind_eq_ok.mpr ⟨_, (readsBack_count n).optional nofun, rfl⟩
  have hconcurrent :
      setAll set (Json.fieldIfAny "concurrent" (fun n => .int n.toNat) load.concurrent)
        { requests := load.requests } = .ok load := by
    refine Data.setAll_fieldIfAny (fun h => by rw [← h]) fun n h => ?_
    refine Built.bind_eq_ok.mpr ⟨_, (readsBack_count n).optional nofun, ?_⟩
    rw [← h]
    rfl
  refine Data.record_ofJson (by decide) ?_ nofun (Data.setAll_append hrequests hconcurrent)
  rw [Entries.names_append]
  exact (Json.names_fieldIfAny_sublist ..).append (Json.names_fieldIfAny_sublist ..)

/-- An entry is read back with its method and its settings, which are written among its own fields. -/
theorem LoadTestEntry.readsBack (entry : LoadTestEntry) :
    ReadsBack LoadTestEntry.decode toJson entry := by
  have hoperation := entry.operation.readsBack
  have hload := entry.load.readsBack
  have hrequired : ∀ name ∈ ["pathName", "operation"], name ∈ fieldNames := by decide
  exact Data.record_ofJson (by decide) (List.Sublist.refl _) hrequired
    (Data.setAll_cons rfl (Data.setAll_cons (Built.bind_eq_ok.mpr ⟨_, hoperation, rfl⟩)
      (Data.setAll_cons (Built.bind_eq_ok.mpr ⟨_, hload, rfl⟩) rfl)))

/-! ### Sequences -/

/-- **Dependencies** are read back if no step is named twice, since a name that is written again counts
as written last. -/
theorem Dependencies.readsBack {deps : Dependencies} (h : deps.names.Nodup) :
    ReadsBack Dependencies.decode toJson deps := by
  refine ReadsBack.entries h fun e _ => ?_
  have hname : ∀ name ∈ e.2, ReadsBack fieldName .str name := fun _ _ => rfl
  exact Data.mapM_ofJsonItems hname

/-- **A step** is read back under the same condition on its dependencies. -/
theorem SequenceStep.readsBack {step : SequenceStep} (h : step.deps.names.Nodup) :
    ReadsBack SequenceStep.decode toJson step := by
  have hoperation := step.operation.readsBack
  have hknown : setAll set
      [("step", .str step.step), ("path", .str step.path), ("op", .str step.operation.key)]
      ⟨"", "", .get, []⟩ = .ok { step with deps := [] } :=
    Data.setAll_cons rfl (Data.setAll_cons rfl
      (Data.setAll_cons (Built.bind_eq_ok.mpr ⟨_, hoperation, rfl⟩) rfl))
  have hdeps : setAll set (if step.deps.isEmpty then [] else [("deps", step.deps.toJson)])
      { step with deps := [] } = .ok step := by
    split
    next hempty =>
      rw [← List.isEmpty_iff.mp hempty]
      rfl
    next => exact Data.setAll_cons (Built.bind_eq_ok.mpr ⟨_, Dependencies.readsBack h, rfl⟩) rfl
  have hnames : (Entries.names (if step.deps.isEmpty then [] else [("deps", step.deps.toJson)])).Sublist
      ["deps"] := by
    split
    · exact List.nil_sublist _
    · exact List.Sublist.refl _
  refine Data.record_ofJson (by decide) ?_ ?_ (Data.setAll_append hknown hdeps)
  · rw [Entries.names_append]
    exact (List.Sublist.refl ["step", "path", "op"]).append hnames
  · rw [Entries.names_append]
    exact fun _ hname => List.mem_append_left _ hname

/-! ### Whole configurations -/

namespace RunConfig

/-- **Distinct keys**: no map of the configuration holds a name twice, and neither does an object among its
values. -/
structure DistinctKeys (config : RunConfig) : Prop where
  pathParams : (Json.obj config.pathParams).DistinctKeys
  queryNames : config.queryVals.names.Nodup
  queryVals : ∀ e ∈ config.queryVals, (Json.obj e.2).DistinctKeys
  bodyNames : config.bodyVals.names.Nodup
  bodyVals : ∀ e ∈ config.bodyVals, (Json.obj e.2).DistinctKeys
  sequences : config.sequences.names.Nodup
  deps : ∀ e ∈ config.sequences, ∀ step ∈ e.2, step.deps.names.Nodup

/-- **Run configurations are read back**, provided that no map of theirs holds a name twice. Both values
would be written, and only the last one read. -/
theorem readsBack {config : RunConfig} (h : config.DistinctKeys) : ReadsBack decode toJson config := by
  have hpathNames := Data.readsBack_strings config.pathNames
  have hpathParams := readsBack_values h.pathParams
  have hqueryVals := ReadsBack.entries h.queryNames fun e he => readsBack_values (h.queryVals e he)
  have hbodyVals := ReadsBack.entries h.bodyNames fun e he => readsBack_values (h.bodyVals e he)
  have hloadTest := ReadsBack.list fun entry (_ : entry ∈ config.loadTest) => entry.readsBack
  have hsequences := ReadsBack.entries h.sequences fun e he =>
    ReadsBack.list fun step hstep => SequenceStep.readsBack (h.deps e he step hstep)
  -- the field between the two runs is written only if it has a value
  have hbefore : setAll set
      [("testModule", .str config.testModule.name),
        ("assertionFormat", .str config.assertionFormat.name),
        ("pathName", Json.strings config.pathNames),
        ("pathParams", .obj config.pathParams),
        ("queryVals", .obj (config.queryVals.mapValues .obj)),
        ("bodyVals", .obj (config.bodyVals.mapValues .obj))] {} =
      .ok { config with maxLen := none, loadTest := [], sequences := [] } :=
    Data.setAll_cons (Built.bind_eq_ok.mpr ⟨_, config.testModule.readsBack, rfl⟩)
      (Data.setAll_cons (Built.bind_eq_ok.mpr ⟨_, config.assertionFormat.readsBack, rfl⟩)
      (Data.setAll_cons (Built.bind_eq_ok.mpr ⟨_, hpathNames, rfl⟩)
      (Data.setAll_cons (Built.bind_eq_ok.mpr ⟨_, hpathParams, rfl⟩)
      (Data.setAll_cons (Built.bind_eq_ok.mpr ⟨_, hqueryVals, rfl⟩)
      (Data.setAll_cons (Built.bind_eq_ok.mpr ⟨_, hbodyVals, rfl⟩) rfl)))))
  have hmaxLen : setAll set (Json.fieldIfAny "maxLen" (fun n => .int n.toNat) config.maxLen)
      { config with maxLen := none, loadTest := [], sequences := [] } =
      .ok { config with loadTest := [], sequences := [] } := by
    refine Data.setAll_fieldIfAny (fun h => by rw [h]) fun n h => ?_
    rw [h]
    exact Built.bind_eq_ok.mpr ⟨_, (readsBack_width n).optional nofun, rfl⟩
  have hafter : setAll set
      [("loadTest", .arr (config.loadTest.map LoadTestEntry.toJson)),
        ("sequences",
          .obj (config.sequences.mapValues fun steps => .arr (steps.map SequenceStep.toJson)))]
      { config with loadTest := [], sequences := [] } = .ok config :=
    Data.setAll_cons (Built.bind_eq_ok.mpr ⟨_, hloadTest, rfl⟩)
      (Data.setAll_cons (Built.bind_eq_ok.mpr ⟨_, hsequences, rfl⟩) rfl)
  refine Data.record_ofJson (by decide) ?_ nofun
    (Data.setAll_append (Data.setAll_append hbefore hmaxLen) hafter)
  rw [Entries.names_append, Entries.names_append]
  exact ((List.Sublist.refl
    ["testModule", "assertionFormat", "pathName", "pathParams", "queryVals", "bodyVals"]).append
    (Json.names_fieldIfAny_sublist ..)).append (List.Sublist.refl ["loadTest", "sequences"])

/-! ### Decoded configurations -/

/-- Values come from a map of data, where a repeated key keeps only its last value. -/
theorem distinctKeys_of_values {d : Data} {pool : ValuePool} (h : values d = .ok pool) :
    (Json.obj pool).DistinctKeys := by
  refine .obj (Data.nodup_entries h) fun e he => ?_
  obtain ⟨x, -, hx⟩ := Data.last?_of_mem_entries h he
  exact Data.distinctKeys_of_toJson? (Data.json_eq_ok.mp hx)

theorem distinctKeys_of_pools {d : Data} {pools : Entries ValuePool} (h : d.entries values = .ok pools) :
    ∀ e ∈ pools, (Json.obj e.2).DistinctKeys := by
  intro e he
  obtain ⟨x, -, hx⟩ := Data.last?_of_mem_entries h he
  exact distinctKeys_of_values hx

/-- Decoded steps name each earlier step once. -/
theorem nodup_of_decodeStep {d : Data} {step : SequenceStep} (h : SequenceStep.decode d = .ok step) :
    step.deps.names.Nodup := by
  refine Data.record_preserves (P := fun step : SequenceStep => step.deps.names.Nodup) ?_ h
    List.nodup_nil
  intro k d step step' hstep hset
  unfold SequenceStep.set at hset
  split at hset <;> obtain ⟨a, ha, hput⟩ := Built.bind_eq_ok.mp hset <;>
    obtain rfl := Built.pure_eq_ok.mp hput
  case h_4 => exact Data.nodup_entries ha
  all_goals exact hstep

/-- **Decoded configurations** have distinct keys, since every decoder of named values keeps one value
for each name. So whatever was read can be written and read again. -/
theorem distinctKeys_of_decode {d : Data} {config : RunConfig} (h : decode d = .ok config) :
    config.DistinctKeys := by
  have hempty : DistinctKeys {} :=
    ⟨.obj List.nodup_nil nofun, List.nodup_nil, nofun, List.nodup_nil, nofun, List.nodup_nil, nofun⟩
  refine Data.record_preserves (P := DistinctKeys) ?_ h hempty
  intro k d config config' hconfig hset
  unfold set at hset
  split at hset <;> obtain ⟨a, ha, hput⟩ := Built.bind_eq_ok.mp hset <;>
    obtain rfl := Built.pure_eq_ok.mp hput
  case h_4 => exact { hconfig with pathParams := distinctKeys_of_values ha }
  case h_5 =>
    exact { hconfig with queryNames := Data.nodup_entries ha, queryVals := distinctKeys_of_pools ha }
  case h_6 =>
    exact { hconfig with bodyNames := Data.nodup_entries ha, bodyVals := distinctKeys_of_pools ha }
  case h_9 =>
    refine { hconfig with sequences := Data.nodup_entries ha, deps := fun e he step hstep => ?_ }
    obtain ⟨x, -, hx⟩ := Data.last?_of_mem_entries ha he
    obtain ⟨y, hy⟩ := Data.exists_of_mem_list hx hstep
    exact nodup_of_decodeStep hy
  all_goals exact { hconfig with }

end RunConfig

end ApiScaffold
