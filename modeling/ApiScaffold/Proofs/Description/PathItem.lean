import ApiScaffold.Proofs.Data.Json
import ApiScaffold.Proofs.Description.Declared

/-!
# Path items by their known keys

A path item has eight known keys, `parameters` and the seven methods in lowercase. An item is decoded in one
pass over its entries. What the pass gives is said here by the known keys alone: when it succeeds, which
parameters it leaves, and which operations in which order (`PathItem.Holds`). All other entries are skipped,
so wherever they stand and whatever they hold, they show neither in the item nor in the reason why there is
none.
-/

namespace ApiScaffold.PathItem

/-- The keys of operations. -/
def operationKeys : List String := Method.all.map Method.key

/-- **Known keys** of a path item. -/
def knownKeys : List String := "parameters" :: operationKeys

/-- The entries under known keys, in their order. -/
def knownEntries (fields : Entries Json) : Entries Json := fields.filter fun f => f.1 ∈ knownKeys

/-- The entries under keys of operations, in their order. -/
def operationEntries (fields : Entries Json) : Entries Json :=
  fields.filter fun f => f.1 ∈ operationKeys

/-- **What entries say of an item**: its parameters are what the entry of parameters decodes to, and none
without it; its operations are those that the entries under their keys decode to, in the order of these. -/
structure Holds (fields : Entries Json) (item : PathItem) : Prop where
  parameters : Data.Gives (fun v => (Data.ofJson v).list ParameterEntry.decode) []
    (fields.get? "parameters") item.parameters
  operations : List.Forall₂
    (fun f o => f.1 = o.1.key ∧ Operation.decode (Data.ofJson f.2) = .ok o.2)
    (operationEntries fields) item.operations

/-- Whether an entry can be read: it does not have to be known, but if it is, it decodes. -/
def IsReadable (f : String × Json) : Prop :=
  (f.1 = "parameters" → ∃ ps, (Data.ofJson f.2).list ParameterEntry.decode = .ok ps) ∧
    ∀ m : Method, f.1 = m.key → ∃ o, Operation.decode (Data.ofJson f.2) = .ok o

theorem mem_operationKeys {key : String} : key ∈ operationKeys ↔ ∃ m : Method, key = m.key := by
  have hall (m : Method) : m ∈ Method.all := by cases m <;> decide
  rw [operationKeys, List.mem_map]
  exact ⟨fun ⟨m, _, h⟩ => ⟨m, h.symm⟩, fun ⟨m, h⟩ => ⟨m, hall m, h.symm⟩⟩

theorem parameters_not_mem : "parameters" ∉ operationKeys := by decide

theorem ext {item item' : PathItem} (hparameters : item.parameters = item'.parameters)
    (hoperations : item.operations = item'.operations) : item = item' := by
  cases item
  cases item'
  cases hparameters
  cases hoperations
  rfl

/-! ### One entry -/

section

variable {item item' : PathItem} {key : String} {value : Json} {m : Method}

theorem set_parameters : item.set "parameters" value =
    ((Data.ofJson value).list ParameterEntry.decode).map fun ps => { item with parameters := ps } :=
  rfl

theorem set_key : item.set m.key value =
    (Operation.decode (Data.ofJson value)).map (item.insert m) := by
  have hne : m.key ≠ "parameters" := by cases m <;> decide
  rw [set, if_neg hne, Method.ofKey?_key]
  rfl

/-- Entries under other keys are skipped. -/
theorem set_of_not_mem (h : key ∉ knownKeys) : item.set key value = .ok item := by
  rw [knownKeys, List.mem_cons, not_or] at h
  have hnone : Method.ofKey? key = none := by
    cases hkey : Method.ofKey? key with
    | none => rfl
    | some m =>
      have hm : m.key = key := by simpa using List.find?_some hkey
      exact absurd (mem_operationKeys.mpr ⟨m, hm.symm⟩) h.2
  rw [set, if_neg h.1, hnone]
  rfl

/-- Whether an entry is taken depends on the entry alone. -/
theorem exists_set_iff {f : String × Json} :
    (∃ item', item.set f.1 f.2 = .ok item') ↔ IsReadable f := by
  obtain ⟨key, value⟩ := f
  by_cases hknown : key ∈ knownKeys
  · rcases List.mem_cons.mp hknown with rfl | hkey
    · have hno (m : Method) : "parameters" ≠ m.key := fun h =>
        parameters_not_mem (mem_operationKeys.mpr ⟨m, h⟩)
      simp [IsReadable, set_parameters, Built.map_eq_ok, hno]
    · obtain ⟨m, rfl⟩ := mem_operationKeys.mp hkey
      have hne : m.key ≠ "parameters" := fun h => parameters_not_mem (h ▸ hkey)
      have hkeys (m' : Method) : m.key = m'.key ↔ m = m' :=
        ⟨Method.key_injective, congrArg Method.key⟩
      simp [IsReadable, set_key, Built.map_eq_ok, hne, hkeys]
  · have hno (m : Method) : key ≠ m.key := fun h =>
      hknown (List.mem_cons_of_mem _ (mem_operationKeys.mpr ⟨m, h⟩))
    have hne : key ≠ "parameters" := fun h => hknown (h ▸ List.mem_cons_self)
    simp [IsReadable, set_of_not_mem hknown, hne, hno]

/-- The operation of a new method goes to the end. -/
theorem operations_insert_of_not_mem {o : Operation} (h : m ∉ item.operations.map (·.1)) :
    (item.insert m o).operations = item.operations ++ [(m, o)] := by
  change insertOperation m o item.operations = _
  generalize item.operations = operations at h ⊢
  induction operations with
  | nil => rfl
  | cons entry rest ih =>
    obtain ⟨k, v⟩ := entry
    rw [List.map_cons, List.mem_cons, not_or] at h
    rw [insertOperation, if_neg (Ne.symm h.1), ih h.2, List.cons_append]

end

/-! ### The whole pass -/

variable {fields rest : Entries Json} {item item' : PathItem}

theorem ofEntries_eq (fields : Entries Json) :
    ofEntries fields = fields.foldlM (fun item f => item.set f.1 f.2) empty := rfl

/-- **Where entries lead** from an item: they replace the parameters, if they have any, and put their
operations after those that are there. -/
def Leads (fields : Entries Json) (item item' : PathItem) : Prop :=
  Data.Gives (fun v => (Data.ofJson v).list ParameterEntry.decode) item.parameters
      (fields.get? "parameters") item'.parameters ∧
    ∃ more, List.Forall₂ (fun f o => f.1 = o.1.key ∧ Operation.decode (Data.ofJson f.2) = .ok o.2)
        (operationEntries fields) more ∧
      item'.operations = item.operations ++ more

theorem leads_nil : Leads [] item item' ↔ item = item' := by
  constructor
  · rintro ⟨hparameters, more, hmore, hoperations⟩
    cases hmore
    rw [List.append_nil] at hoperations
    exact ext hparameters.symm hoperations.symm
  · rintro rfl
    exact ⟨rfl, [], .nil, (List.append_nil _).symm⟩

/-- No later entry has parameters, so those of this one stay. -/
theorem leads_parameters {value : Json} (h : "parameters" ∉ rest.names) :
    Leads (("parameters", value) :: rest) item item' ↔
      ∃ ps, (Data.ofJson value).list ParameterEntry.decode = .ok ps ∧
        Leads rest { item with parameters := ps } item' := by
  have hnone : rest.get? "parameters" = none := Entries.get?_eq_none_iff.mpr h
  have hskip : operationEntries (("parameters", value) :: rest) = operationEntries rest :=
    List.filter_cons_of_neg (by simpa using parameters_not_mem)
  rw [Leads, hskip, Entries.get?, if_pos rfl]
  simp only [Leads, hnone, Data.Gives]
  constructor
  · rintro ⟨hps, hmore⟩
    exact ⟨_, hps, rfl, hmore⟩
  · rintro ⟨_, hps, rfl, hmore⟩
    exact ⟨hps, hmore⟩

/-- An operation of a new method comes before those of later entries. -/
theorem leads_key {m : Method} {value : Json} (h : m ∉ item.operations.map (·.1)) :
    Leads ((m.key, value) :: rest) item item' ↔
      ∃ o, Operation.decode (Data.ofJson value) = .ok o ∧ Leads rest (item.insert m o) item' := by
  have hkey : m.key ∈ operationKeys := mem_operationKeys.mpr ⟨m, rfl⟩
  have hne : m.key ≠ "parameters" := fun h => parameters_not_mem (h ▸ hkey)
  have htake : operationEntries ((m.key, value) :: rest) =
      (m.key, value) :: operationEntries rest :=
    List.filter_cons_of_pos (by simpa using hkey)
  rw [Leads, htake, Entries.get?, if_neg hne]
  simp only [Leads, operations_insert_of_not_mem h, List.forall₂_cons_left_iff]
  constructor
  · rintro ⟨hkept, _, ⟨⟨m', o⟩, more, ⟨hm, ho⟩, hmore, rfl⟩, hoperations⟩
    obtain rfl := Method.key_injective hm
    exact ⟨o, ho, hkept, more, hmore, by rw [hoperations, List.append_assoc, List.singleton_append]⟩
  · rintro ⟨o, ho, hkept, more, hmore, hoperations⟩
    refine ⟨hkept, (m, o) :: more, ⟨(m, o), more, ⟨rfl, ho⟩, hmore, rfl⟩, ?_⟩
    rw [hoperations, List.append_assoc, List.singleton_append]

theorem leads_of_not_mem {key : String} {value : Json} (h : key ∉ knownKeys) :
    Leads ((key, value) :: rest) item item' ↔ Leads rest item item' := by
  rw [knownKeys, List.mem_cons, not_or] at h
  have hskip : operationEntries ((key, value) :: rest) = operationEntries rest :=
    List.filter_cons_of_neg (by simpa using h.2)
  rw [Leads, hskip, Entries.get?, if_neg h.1, Leads]

/-- **A pass over entries** under distinct keys goes where they lead, from an item without their
methods. -/
theorem foldlM_set_eq_ok_iff (hnames : fields.names.Nodup)
    (hnew : ∀ m ∈ item.operations.map (·.1), m.key ∉ fields.names) :
    fields.foldlM (fun item f => item.set f.1 f.2) item = .ok item' ↔ Leads fields item item' := by
  induction fields generalizing item with
  | nil => rw [List.foldlM_nil, Built.pure_eq_ok, leads_nil]
  | cons field rest ih =>
    obtain ⟨key, value⟩ := field
    obtain ⟨hkey, hrest⟩ := List.nodup_cons.mp hnames
    have hlater : ∀ m ∈ item.operations.map (·.1), m.key ∉ Entries.names rest := fun m hm hmem =>
      hnew m hm (List.mem_cons_of_mem _ hmem)
    rw [List.foldlM_cons]
    dsimp only
    by_cases hknown : key ∈ knownKeys
    · rw [Built.bind_eq_ok]
      rcases List.mem_cons.mp hknown with rfl | hoperation
      · simp only [set_parameters, Built.map_eq_ok, exists_exists_and_eq_and, leads_parameters hkey]
        exact exists_congr fun ps => and_congr_right fun _ => ih hrest hlater
      · obtain ⟨m, rfl⟩ := mem_operationKeys.mp hoperation
        have hm : m ∉ item.operations.map (·.1) := fun hmem => hnew m hmem List.mem_cons_self
        simp only [set_key, Built.map_eq_ok, exists_exists_and_eq_and, leads_key hm]
        refine exists_congr fun o => and_congr_right fun _ => ih hrest ?_
        -- keys are distinct, so the new method is none of those that come
        rw [operations_insert_of_not_mem hm, List.map_append, List.forall_mem_append]
        exact ⟨hlater, List.forall_mem_singleton.mpr hkey⟩
    · rw [set_of_not_mem hknown, leads_of_not_mem hknown]
      exact ih hrest hlater

/-- **The item of entries** under distinct keys is the one that they say. Since no key stands twice, no
entry can undo another, and the order of entries shows in the order of operations only. -/
theorem ofEntries_eq_ok_iff (hnames : fields.names.Nodup) :
    ofEntries fields = .ok item ↔ Holds fields item := by
  rw [ofEntries_eq, foldlM_set_eq_ok_iff hnames fun m hm => (List.not_mem_nil hm).elim]
  constructor
  · rintro ⟨hparameters, more, hmore, hoperations⟩
    obtain rfl : item.operations = more := hoperations
    exact ⟨hparameters, hmore⟩
  · intro h
    exact ⟨h.parameters, item.operations, h.operations, rfl⟩

/-- **When there is an item**: every entry can be read. Entries that are skipped can always be read. -/
theorem exists_ofEntries_iff :
    (∃ item, ofEntries fields = .ok item) ↔ ∀ f ∈ fields, IsReadable f := by
  rw [ofEntries_eq]
  refine Built.exists_foldlM_iff fun item f => ?_
  exact exists_set_iff

/-- Only the entries under known keys count. -/
theorem ofEntries_knownEntries (fields : Entries Json) :
    ofEntries (knownEntries fields) = ofEntries fields := by
  rw [ofEntries_eq, ofEntries_eq]
  refine (Built.foldlM_filter (p := fun f => f.1 ∈ knownKeys) (fun item f h => ?_) fields empty).symm
  exact set_of_not_mem (by simpa using h)

/-- **Path items decode their known keys.** Of entries under distinct keys there is an item exactly if what
stands under `parameters` decodes as a list of parameters and what stands under each key of a method as an
operation, as far as they are there. The parameters of the item are that list, and none without it; its
operations are those, in the order of the entries. Entries that agree on what stands under the known keys, in
its order, give the same item or the same refusal, whatever other entries stand between. As long as the values
have distinct keys themselves, it makes no difference whether the entries are read from an object. -/
theorem ofEntries_iff_known (fields : Entries Json) (hnames : fields.names.Nodup) :
    ((∃ item, ofEntries fields = .ok item) ↔
      (∀ v, fields.get? "parameters" = some v →
        ∃ ps, (Data.ofJson v).list ParameterEntry.decode = .ok ps) ∧
      ∀ (m : Method) v, fields.get? m.key = some v → ∃ o, Operation.decode (Data.ofJson v) = .ok o) ∧
    (∀ item, ofEntries fields = .ok item ↔ Holds fields item) ∧
    (∀ other, knownEntries other = knownEntries fields → ofEntries other = ofEntries fields) ∧
    ((∀ f ∈ fields, f.2.DistinctKeys) → decode (Data.ofJson (.obj fields)) = ofEntries fields) := by
  refine ⟨?_, fun item => ofEntries_eq_ok_iff hnames, ?_, ?_⟩
  · simp only [exists_ofEntries_iff, Entries.get?_eq_some_iff hnames, IsReadable]
    constructor
    · intro h
      exact ⟨fun v hv => (h _ hv).1 rfl, fun m v hv => (h _ hv).2 m rfl⟩
    · rintro ⟨hparameters, hoperations⟩ ⟨key, value⟩ hf
      refine ⟨?_, ?_⟩
      · rintro rfl
        exact hparameters value hf
      · rintro m rfl
        exact hoperations m value hf
  · intro other h
    rw [← ofEntries_knownEntries, h, ofEntries_knownEntries]
  · intro hvalues
    have hread : (Data.ofJson (.obj fields)).entries Data.json = .ok fields := by
      have h := Data.ReadsBack.entries hnames fun f hf => Data.readsBack_json (hvalues f hf)
      simpa [Data.ReadsBack, Entries.mapValues] using h
    rw [decode, hread]
    rfl

/-- Two operations and parameters among keys that only look like those of methods. -/
theorem ofEntries_iff_known_mixed :
    let fields : Entries Json := [("x-note", .str "draft"), ("post", .obj []), ("GET", .int 1),
      ("parameters", .arr []), ("get", .obj [("deprecated", .bool true)])]
    let item : PathItem := { operations := [(.post, {}), (.get, { deprecated := true })] }
    fields.names.Nodup ∧ ofEntries fields = .ok item ∧ Holds fields item ∧
      ofEntries [("post", .obj []), ("Head", .null), ("parameters", .arr []),
        ("get", .obj [("deprecated", .bool true)])] = ofEntries fields := by
  intro fields item
  have hnames : fields.names.Nodup := by decide
  have hok : ofEntries fields = .ok item := by rfl
  obtain ⟨-, hholds, hknown, -⟩ := ofEntries_iff_known fields hnames
  exact ⟨hnames, hok, (hholds item).mp hok, hknown _ (by rfl)⟩

end ApiScaffold.PathItem
