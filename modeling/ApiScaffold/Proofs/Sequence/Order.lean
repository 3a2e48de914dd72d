import ApiScaffold.Proofs.Pairing
import ApiScaffold.Proofs.Sequence.Run

/-!
# The order of steps

Steps are in order when their labels are distinct and each source precedes the steps that draw on
it (`SequenceBlock.SourcesPrecede`). Of the order nothing else matters: steps that do not draw on
each other can be exchanged, and their cases go with them unchanged, since nothing that a step
leaves in the context reaches a later case. A prefix of a sequence is a sequence as well.
-/

namespace ApiScaffold.SequenceBlock

variable {api : Description} {config : RunConfig} {name : String}

/-! ### Places of labels -/

/-- **Sources precede**: each source of a step is the label of a strictly earlier one. -/
def SourcesPrecede (steps : List SequenceStep) : Prop :=
  ∀ (i : Nat) (step : SequenceStep), steps[i]? = some step → ∀ source ∈ step.deps.names,
    ∃ j < i, ∃ origin : SequenceStep, steps[j]? = some origin ∧ origin.step = source

/-- The labels before a place are those of the steps at earlier places. -/
theorem mem_labels_take {steps : List SequenceStep} {i : Nat} {source : String} :
    source ∈ (steps.take i).map (·.step) ↔
      ∃ j < i, ∃ origin : SequenceStep, steps[j]? = some origin ∧ origin.step = source := by
  rw [List.mem_map]
  constructor
  · rintro ⟨origin, hmem, hlabel⟩
    obtain ⟨j, h⟩ := List.mem_iff_getElem?.mp hmem
    rw [List.getElem?_take, Option.ite_none_right_eq_some] at h
    obtain ⟨hj, h⟩ := h
    exact ⟨j, hj, origin, h, hlabel⟩
  · rintro ⟨j, hj, origin, h, hlabel⟩
    refine ⟨origin, List.mem_iff_getElem?.mpr ⟨j, ?_⟩, hlabel⟩
    rw [List.getElem?_take_of_lt hj, h]

/-- What the recursion over the steps checks, place by place. The labels from before stand in front
of those that the recursion has met. -/
theorem chained_iff_take {earlier : List String} {steps : List SequenceStep} :
    Chained earlier steps ↔
      (steps.map (·.step)).Nodup ∧ (∀ step ∈ steps, step.step ∉ earlier) ∧
        ∀ (i : Nat) (step : SequenceStep), steps[i]? = some step →
          ∀ source ∈ step.deps.names, source ∈ earlier ++ (steps.take i).map (·.step) := by
  induction steps generalizing earlier with
  | nil => simp [Chained]
  | cons step rest ih =>
    rw [Chained, ih, List.map_cons, List.nodup_cons, List.forall_mem_cons]
    constructor
    · rintro ⟨hnew, hsources, hnodup, hrest, hplaces⟩
      refine ⟨⟨fun hmem => ?_, hnodup⟩, ⟨hnew, fun s hs h => ?_⟩, fun i s hi source hsource => ?_⟩
      · obtain ⟨s, hs, hlabel⟩ := List.mem_map.mp hmem
        exact hrest s hs (List.mem_append_right _ (List.mem_singleton.mpr hlabel))
      · exact hrest s hs (List.mem_append_left _ h)
      · cases i with
        | zero =>
          obtain rfl := Option.some.inj hi
          exact List.mem_append_left _ (hsources source hsource)
        | succ i => simpa using hplaces i s hi source hsource
    · rintro ⟨⟨hlabel, hnodup⟩, ⟨hnew, hrest⟩, hplaces⟩
      refine ⟨hnew, fun source hsource => ?_, hnodup, fun s hs h => ?_,
        fun i s hi source hsource => ?_⟩
      · simpa using hplaces 0 step rfl source hsource
      · rcases List.mem_append.mp h with h | h
        · exact hrest s hs h
        · exact hlabel (List.mem_map.mpr ⟨s, hs, List.mem_singleton.mp h⟩)
      · simpa using hplaces (i + 1) s hi source hsource

/-- **Steps in order**: distinct labels, and sources that precede. -/
theorem chained_iff {steps : List SequenceStep} :
    Chained [] steps ↔ (steps.map (·.step)).Nodup ∧ SourcesPrecede steps := by
  rw [chained_iff_take]
  simp only [SourcesPrecede, ← mem_labels_take, List.nil_append, List.not_mem_nil,
    not_false_eq_true, implies_true, true_and]

/-- A prefix of steps in order is in order. -/
theorem Chained.take {steps : List SequenceStep} (h : Chained [] steps) (n : Nat) :
    Chained [] (steps.take n) := by
  obtain ⟨hnodup, hprecede⟩ := chained_iff.mp h
  refine chained_iff.mpr ⟨hnodup.sublist ((List.take_sublist n steps).map _), ?_⟩
  intro i step hi source hsource
  rw [List.getElem?_take, Option.ite_none_right_eq_some] at hi
  obtain ⟨hin, hi⟩ := hi
  obtain ⟨j, hj, origin, horigin, hlabel⟩ := hprecede i step hi source hsource
  exact ⟨j, hj, origin, by rw [List.getElem?_take_of_lt (Nat.lt_trans hj hin), horigin], hlabel⟩

/-! ### Exchanging and cutting off steps -/

/-- Cases in a new order are the cases of the steps in that order. -/
theorem forall₂_of_zip_perm {steps steps' : List SequenceStep} {tests tests' : List TestCase}
    (h : List.Forall₂ (fun step t => stepCase api config step = .ok t) steps tests)
    (hl : steps'.length = tests'.length) (hp : (steps'.zip tests').Perm (steps.zip tests)) :
    List.Forall₂ (fun step t => stepCase api config step = .ok t) steps' tests' :=
  List.forall₂_iff_zip.mpr ⟨hl, fun hmem => List.forall₂_zip h (hp.subset hmem)⟩

theorem importsOf_eq_of_perm {cases cases' : List (SequenceStep × TestCase)}
    (h : cases'.Perm cases) : importsOf api cases' = importsOf api cases :=
  Imports.join_eq_of_perm (h.map _)

/-- **Independent steps commute.** Put the steps of a sequence into any order in which sources
still precede: it can be built, each step keeps its case, and the imports stay the same. And every
prefix of a sequence can be built, with the prefix of the cases, and with imports that the whole
has as well. -/
theorem build_perm_and_take {steps : List SequenceStep} {block : SequenceBlock}
    (h : build api config name steps = .ok block) :
    (∀ steps' : List SequenceStep, steps'.Perm steps → SourcesPrecede steps' →
      ∃ tests', steps'.length = tests'.length ∧
        (steps'.zip tests').Perm (steps.zip block.steps) ∧
        build api config name steps' = .ok { block with steps := tests' }) ∧
    ∀ n, ∃ imports : Imports, imports.Within block.imports ∧
      build api config name (steps.take n) =
        .ok { block with steps := block.steps.take n, imports := imports } := by
  obtain ⟨hchained, hcases, hblock⟩ := build_eq_ok.mp h
  constructor
  -- labels stay distinct in any order, and each case goes with its step
  · intro steps' hperm hprecede
    obtain ⟨tests', hl, hzip⟩ := Pairing.exists_zip_perm hperm hcases.length_eq
    refine ⟨tests', hl, hzip, build_eq_ok.mpr ⟨?_, forall₂_of_zip_perm hcases hl hzip, ?_⟩⟩
    · have hnodup := (chained_iff.mp hchained).1
      exact chained_iff.mpr ⟨(hperm.map _).nodup_iff.mpr hnodup, hprecede⟩
    · rw [importsOf_eq_of_perm hzip]
      rw [hblock]
  · intro n
    refine ⟨importsOf api ((steps.take n).zip (block.steps.take n)), ?_, build_eq_ok.mpr
      ⟨hchained.take n, List.forall₂_take n hcases, ?_⟩⟩
    · rw [hblock, List.zip, ← List.take_zipWith]
      exact Imports.join_within (List.map_subset _ (List.take_subset ..))
    · rw [hblock]

/-- Two pets are added, and the first of them is read back. -/
def petSteps : List SequenceStep :=
  [⟨"create", "/pets", .post, []⟩, ⟨"repeat", "/pets", .post, []⟩,
    ⟨"read", "/pets/\x7bid\x7d", .get, [("create", ["id"])]⟩]

/-- The two pets may be added in the other order, or the sequence may end after the first. -/
theorem build_perm_and_take_petSteps :
    ∃ block tests, build .pets {} "pets" petSteps = .ok block ∧
      build .pets {} "pets" [⟨"repeat", "/pets", .post, []⟩, ⟨"create", "/pets", .post, []⟩,
        ⟨"read", "/pets/\x7bid\x7d", .get, [("create", ["id"])]⟩] =
          .ok { block with steps := tests } ∧
      ∃ imports : Imports, imports.Within block.imports ∧
        build .pets {} "pets" (petSteps.take 1) =
          .ok { block with steps := block.steps.take 1, imports := imports } := by
  have h : ∃ block, build .pets {} "pets" petSteps = .ok block := ⟨_, rfl⟩
  obtain ⟨block, h⟩ := h
  obtain ⟨hperm, htake⟩ := build_perm_and_take h
  have hchained : Chained [] [⟨"repeat", "/pets", .post, []⟩, ⟨"create", "/pets", .post, []⟩,
      ⟨"read", "/pets/\x7bid\x7d", .get, [("create", ["id"])]⟩] := by
    simp +decide [Chained]
  obtain ⟨tests, -, -, hbuild⟩ := hperm _ (.swap ..) (chained_iff.mp hchained).2
  exact ⟨block, tests, h, hbuild, htake 1⟩

end ApiScaffold.SequenceBlock
