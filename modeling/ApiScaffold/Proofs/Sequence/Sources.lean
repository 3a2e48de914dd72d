import ApiScaffold.Proofs.Script.Drawing
import ApiScaffold.Proofs.Sequence.Order

/-!
# Sources of a sequence

When can a sequence be built, and what may its cases draw on? The conditions are on the steps
alone: distinct labels, sources that precede, declared operations with the expected response, and a
case for each step. Then every dependency in a case goes to a step strictly before it, and so in
the file the function that assigns a response stands before each function that reads a field of it.
-/

namespace ApiScaffold.SequenceBlock

variable {api : Description} {config : RunConfig} {name : String}

/-! ### Cases of steps -/

/-- **The case of a step**: what its request gives in every context that has adopted its operation.
-/
def IsCaseOf (api : Description) (config : RunConfig) (step : SequenceStep) (t : TestCase) : Prop :=
  ∃ operation, api.operation step.path step.operation = .ok operation ∧
    ∀ context : RunContext,
      ((context.adopt api operation).build api config (caseRequest step)).1 = .ok t

theorem stepCase_eq_ok {step : SequenceStep} {t : TestCase} :
    stepCase api config step = .ok t ↔
      ∃ operation, stepOperation api step = .ok operation ∧
        ∀ context : RunContext,
          ((context.adopt api operation).build api config (caseRequest step)).1 = .ok t := by
  simp only [RunContext.build_fst]
  rw [stepCase, Built.bind_eq_ok]
  exact exists_congr fun operation => and_congr_right fun _ => ⟨fun h _ => h, fun h => h {}⟩

theorem IsCaseOf.of_stepCase {step : SequenceStep} {t : TestCase}
    (h : stepCase api config step = .ok t) : IsCaseOf api config step t := by
  obtain ⟨operation, ho, h⟩ := stepCase_eq_ok.mp h
  exact ⟨operation, (stepOperation_eq_ok.mp ho).1, h⟩

/-- A step has a case exactly if its operation is declared with the expected response, and a context
that has adopted it gives a case. -/
theorem exists_stepCase_iff {step : SequenceStep} :
    (∃ t, stepCase api config step = .ok t) ↔
      (∃ operation, api.operation step.path step.operation = .ok operation ∧
        operation.responses.hasKey stepResponse = true) ∧
      ∀ operation, api.operation step.path step.operation = .ok operation →
        ∀ context : RunContext, ∃ t,
          ((context.adopt api operation).build api config (caseRequest step)).1 = .ok t := by
  constructor
  · rintro ⟨t, h⟩
    obtain ⟨operation, ho, h⟩ := stepCase_eq_ok.mp h
    obtain ⟨hdeclared, hresponse⟩ := stepOperation_eq_ok.mp ho
    refine ⟨⟨operation, hdeclared, hresponse⟩, fun other hother context => ?_⟩
    obtain rfl := Except.ok.inj (hdeclared.symm.trans hother)
    exact ⟨t, h context⟩
  · rintro ⟨⟨operation, hdeclared, hresponse⟩, h⟩
    obtain ⟨t, ht⟩ := h operation hdeclared {}
    refine ⟨t, stepCase_eq_ok.mpr
      ⟨operation, stepOperation_eq_ok.mpr ⟨hdeclared, hresponse⟩, fun context => ?_⟩⟩
    rw [RunContext.build_fst] at ht ⊢
    exact ht

/-- **Drawn fields of a step**: a dependency in the case of a step goes to the first of the step's
own sources that lists its name, and draws the field of that name. -/
theorem firstSource_of_stepCase {step : SequenceStep} {t : TestCase}
    (h : stepCase api config step = .ok t) {target label field : String}
    (he : (target, .dependency label field) ∈ t.expressions) :
    field = target ∧ Resolution.FirstSource step.deps label field := by
  obtain ⟨operation, -, h⟩ := Built.bind_eq_ok.mp h
  obtain ⟨pool, hresolve⟩ := TestCase.expression_of_build h he
  obtain ⟨-, hsource, rfl⟩ := Resolution.resolve_eq_dependency_iff.mp hresolve.symm
  exact ⟨rfl, hsource⟩

theorem step_of_stepCase {step : SequenceStep} {t : TestCase}
    (h : stepCase api config step = .ok t) : t.step = some ⟨step.step, step.deps⟩ := by
  obtain ⟨operation, -, h⟩ := Built.bind_eq_ok.mp h
  exact TestCase.step_of_build h

/-! ### Definition before use -/

/-- **Fields are drawn from earlier steps only.** A sequence can be built exactly if its labels are
distinct, its sources precede, each operation is declared with the expected response, and each step
has a case in a context that has adopted its operation. The block then has one case for each step,
in order; a dependency in a case draws the field of its own name from the first of the step's
sources that lists it, which is the label of a strictly earlier step; and in the file, in either
dialect, the function of that step assigns what is read, and stands before the function that reads
it. -/
theorem exists_build_iff_and_drawn (api : Description) (config : RunConfig) (name : String)
    (steps : List SequenceStep) :
    ((∃ block, build api config name steps = .ok block) ↔
      (steps.map (·.step)).Nodup ∧ SourcesPrecede steps ∧
        (∀ step ∈ steps, ∃ operation,
          api.operation step.path step.operation = .ok operation ∧
            operation.responses.hasKey stepResponse = true) ∧
        ∀ step ∈ steps, ∀ operation,
          api.operation step.path step.operation = .ok operation → ∀ context : RunContext, ∃ t,
            ((context.adopt api operation).build api config (caseRequest step)).1 = .ok t) ∧
    ∀ block, build api config name steps = .ok block →
      List.Forall₂ (IsCaseOf api config) steps block.steps ∧
      ∀ (i : Nat) (t : TestCase), block.steps[i]? = some t → ∀ target label field,
        (target, .dependency label field) ∈ t.expressions →
          field = target ∧
          (∃ step : SequenceStep, steps[i]? = some step ∧
            Resolution.FirstSource step.deps label field) ∧
          ∃ j < i, ∃ (origin : SequenceStep) (s : TestCase),
            steps[j]? = some origin ∧ origin.step = label ∧ block.steps[j]? = some s ∧
              ∀ m style, (Renderer.plain m style).Precedes block s t ∧
                Script.Assigns ((Renderer.plain m style).stepLines s) label ∧
                Script.Reads ((Renderer.plain m style).stepLines t) label field := by
  constructor
  · rw [← and_assoc, ← chained_iff, ← forall₂_and]
    constructor
    · rintro ⟨block, h⟩
      obtain ⟨hchained, hcases, -⟩ := build_eq_ok.mp h
      refine ⟨hchained, fun step hstep => exists_stepCase_iff.mp ?_⟩
      exact Pairing.exists_forall₂_iff.mp ⟨_, hcases⟩ step hstep
    · rintro ⟨hchained, hcases⟩
      obtain ⟨tests, htests⟩ :=
        Pairing.exists_forall₂_iff.mpr fun step hstep => exists_stepCase_iff.mpr (hcases step hstep)
      exact ⟨⟨name, api.scheme, api.host, tests, importsOf api (steps.zip tests)⟩,
        build_eq_ok.mpr ⟨hchained, htests, rfl⟩⟩
  · intro block h
    obtain ⟨hchained, hcases, -⟩ := build_eq_ok.mp h
    refine ⟨hcases.imp fun _ _ => IsCaseOf.of_stepCase, fun i t hi target label field he => ?_⟩
    obtain ⟨step, hstep, hcase⟩ := Pairing.exists_left_of_getElem? hcases hi
    obtain ⟨hfield, hsource⟩ := firstSource_of_stepCase hcase he
    -- the source is a label of an earlier step, whose case stands at the same place
    obtain ⟨j, hj, origin, horigin, hlabel⟩ :=
      (chained_iff.mp hchained).2 i step hstep label hsource.mem_names
    obtain ⟨s, hs, hscase⟩ := Pairing.exists_right_of_getElem? hcases horigin
    refine ⟨hfield, ⟨step, hstep, hsource⟩, j, hj, origin, s, horigin, hlabel, hs,
      fun m style => ⟨Renderer.plain_precedes m style hs hi hj, ?_, ?_⟩⟩
    · rw [← hlabel]
      exact Renderer.assigns_stepLines _ (step_of_stepCase hscase)
    · exact (Renderer.sends_stepLines _ t).reads he

/-- Reading a pet back draws the identifier from the step that added it. -/
example : (build .pets {} "pets" petSteps).map (·.steps.map (·.expressions)) =
    .ok [[], [], [("id", .dependency "create" "id")]] := by cbv

end ApiScaffold.SequenceBlock
