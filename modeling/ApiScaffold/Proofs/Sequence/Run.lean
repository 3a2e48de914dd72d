import ApiScaffold.Build.Sequence
import ApiScaffold.Proofs.Imports
import ApiScaffold.Proofs.Pairing
import ApiScaffold.Proofs.TestCase
import Mathlib.Data.List.Forall2

/-!
# A run over the steps of a sequence

`SequenceBlock.buildSteps` threads two things through the steps: the labels so far, and one context.
Neither is needed to say what comes out of it. The labels only have to be in order
(`SequenceBlock.Chained`), each case is the one that its step has on its own
(`SequenceBlock.stepCase`), and the imports are the union of what the cases ask for.
-/

namespace ApiScaffold.SequenceBlock

variable {api : Description} {config : RunConfig} {sequence : String}

/-! ### What a step has to meet -/

/-- **Steps in order** after steps with the labels `earlier`: each label is new, and each source is
a label from before. -/
def Chained : List String → List SequenceStep → Prop
  | _, [] => True
  | earlier, step :: rest =>
    step.step ∉ earlier ∧ (∀ source ∈ step.deps.names, source ∈ earlier) ∧
      Chained (earlier ++ [step.step]) rest

theorem unknownSource?_eq_none {earlier : List String} {step : SequenceStep} :
    unknownSource? earlier step = none ↔ ∀ source ∈ step.deps.names, source ∈ earlier := by
  simp [unknownSource?]

theorem checkStep_eq_ok {earlier : List String} {step : SequenceStep} :
    checkStep sequence earlier step = .ok () ↔
      step.step ∉ earlier ∧ ∀ source ∈ step.deps.names, source ∈ earlier := by
  rw [checkStep, ← unknownSource?_eq_none]
  by_cases h : step.step ∈ earlier
  · simp [h]
  · cases hs : unknownSource? earlier step <;> simp [h]

theorem stepOperation_eq_ok {step : SequenceStep} {operation : Operation} :
    stepOperation api step = .ok operation ↔
      api.operation step.path step.operation = .ok operation ∧
        operation.responses.hasKey stepResponse = true := by
  rw [stepOperation, Built.bind_eq_ok]
  constructor
  · rintro ⟨o, ho, h⟩
    by_cases hk : o.responses.hasKey stepResponse = true
    · rw [if_pos hk] at h
      obtain rfl := Except.ok.inj h
      exact ⟨ho, hk⟩
    · rw [if_neg hk] at h
      cases h
  · rintro ⟨ho, hk⟩
    exact ⟨operation, ho, if_pos hk⟩

/-! ### One step -/

/-- **The case of a step** on its own, in no context but that of its operation. -/
def stepCase (api : Description) (config : RunConfig) (step : SequenceStep) : Built TestCase := do
  let operation ← stepOperation api step
  TestCase.build api config (RunContext.inherit operation.security api.security)
    (caseRequest step)

/-- What a step asks for, with its case. -/
def stepImports (api : Description) (step : SequenceStep) (t : TestCase) : Imports :=
  .ofCase (api.isSecured step.path step.operation) t

/-- Every step expects JSON, so its case is validated as soon as there is a schema. -/
theorem validates_of_build {security : List SecurityRequirement} {step : SequenceStep}
    {t : TestCase} (h : TestCase.build api config security (caseRequest step) = .ok t) :
    t.validates = t.hasSchema := by
  rw [TestCase.validates, TestCase.returnType_of_build h]
  simp [caseRequest]

theorem imports_after_adopt {step : SequenceStep} {operation : Operation} {t : TestCase}
    (h : stepOperation api step = .ok operation) (context : RunContext) :
    ((context.adopt api operation).after t).imports =
      context.imports.or (stepImports api step t) := by
  rw [stepImports, Description.isSecured_of_operation (stepOperation_eq_ok.mp h).1 context]
  rfl

/-- **One step of a run**: its checks succeed, its case is built, and the rest runs in the context
after it. -/
theorem buildSteps_cons_eq_ok {step : SequenceStep} {rest : List SequenceStep}
    {earlier : List String} {context context' : RunContext} {tests : List TestCase} :
    buildSteps api config sequence (step :: rest) earlier context = .ok (tests, context') ↔
      ∃ operation t more, checkStep sequence earlier step = .ok () ∧
        stepOperation api step = .ok operation ∧
        TestCase.build api config (RunContext.inherit operation.security api.security)
          (caseRequest step) = .ok t ∧
        buildSteps api config sequence rest (earlier ++ [step.step])
          ((context.adopt api operation).after t) = .ok (more, context') ∧
        t :: more = tests := by
  rw [buildSteps, Built.bind_eq_ok]
  constructor
  · rintro ⟨⟨⟩, hcheck, h⟩
    obtain ⟨operation, ho, h⟩ := Built.bind_eq_ok.mp h
    rcases ht : TestCase.build api config (RunContext.inherit operation.security api.security)
      (caseRequest step) with fault | t
    · rw [RunContext.build_eq_of_error (context.adopt api operation) ht] at h
      cases h
    rw [RunContext.build_eq_of_ok (context.adopt api operation) ht] at h
    change (buildSteps api config sequence rest _ _ >>= _) = _ at h
    rw [← validates_of_build ht, RunContext.noteImports_noteLoadTest] at h
    obtain ⟨⟨more, last⟩, hmore, h⟩ := Built.bind_eq_ok.mp h
    obtain ⟨rfl, rfl⟩ := Prod.mk.inj (Built.pure_eq_ok.mp h)
    exact ⟨operation, t, more, hcheck, ho, ht, hmore, rfl⟩
  · rintro ⟨operation, t, more, hcheck, ho, ht, hmore, rfl⟩
    refine ⟨(), hcheck, Built.bind_eq_ok.mpr ⟨operation, ho, ?_⟩⟩
    rw [RunContext.build_eq_of_ok (context.adopt api operation) ht]
    refine Built.bind_eq_ok.mpr ⟨t, rfl, ?_⟩
    rw [← validates_of_build ht, RunContext.noteImports_noteLoadTest]
    exact Built.bind_eq_ok.mpr ⟨_, hmore, rfl⟩

/-! ### The whole run -/

/-- What the steps ask for together, with their cases. -/
def importsOf (api : Description) (cases : List (SequenceStep × TestCase)) : Imports :=
  .join (cases.map fun c => stepImports api c.1 c.2)

/-- **A run over the steps** succeeds exactly if the steps are in order and each has a case on its
own. The imports grow by what the steps ask for together. -/
theorem buildSteps_eq_ok {steps : List SequenceStep} {earlier : List String}
    {context : RunContext} {tests : List TestCase} {imports : Imports} :
    (∃ context', buildSteps api config sequence steps earlier context = .ok (tests, context') ∧
        context'.imports = imports) ↔
      Chained earlier steps ∧
        List.Forall₂ (fun step t => stepCase api config step = .ok t) steps tests ∧
        context.imports.or (importsOf api (steps.zip tests)) = imports := by
  induction steps generalizing earlier context tests with
  | nil =>
    rw [List.forall₂_nil_left_iff]
    constructor
    · rintro ⟨context', h, rfl⟩
      obtain ⟨rfl, rfl⟩ := Prod.mk.inj (Except.ok.inj h)
      exact ⟨trivial, rfl, Imports.or_empty _⟩
    · rintro ⟨-, rfl, rfl⟩
      exact ⟨context, rfl, (Imports.or_empty _).symm⟩
  | cons step rest ih =>
    rw [List.forall₂_cons_left_iff]
    constructor
    · rintro ⟨context', h, himports⟩
      obtain ⟨operation, t, more, hcheck, ho, ht, hmore, rfl⟩ := buildSteps_cons_eq_ok.mp h
      obtain ⟨hchained, hcases, hor⟩ := ih.mp ⟨context', hmore, himports⟩
      obtain ⟨hnew, hsources⟩ := checkStep_eq_ok.mp hcheck
      refine ⟨⟨hnew, hsources, hchained⟩,
        ⟨t, more, Built.bind_eq_ok.mpr ⟨operation, ho, ht⟩, hcases, rfl⟩, ?_⟩
      rw [← hor, imports_after_adopt ho, Imports.or_assoc]
      rfl
    · rintro ⟨⟨hnew, hsources, hchained⟩, ⟨t, more, hcase, hcases, rfl⟩, hor⟩
      obtain ⟨operation, ho, ht⟩ := Built.bind_eq_ok.mp hcase
      -- the rest runs on with what the step has already asked for
      have hor' : ((context.adopt api operation).after t).imports.or
          (importsOf api (rest.zip more)) = imports := by
        rw [← hor, imports_after_adopt ho, Imports.or_assoc]
        rfl
      obtain ⟨context', hmore, himports⟩ := ih.mpr ⟨hchained, hcases, hor'⟩
      exact ⟨context', buildSteps_cons_eq_ok.mpr ⟨operation, t, more,
        checkStep_eq_ok.mpr ⟨hnew, hsources⟩, ho, ht, hmore, rfl⟩, himports⟩

/-- **Success of a sequence**: the steps are in order, and the block holds for each of them the
case that it has on its own. -/
theorem build_eq_ok {name : String} {steps : List SequenceStep} {block : SequenceBlock} :
    build api config name steps = .ok block ↔
      Chained [] steps ∧
        List.Forall₂ (fun step t => stepCase api config step = .ok t) steps block.steps ∧
        block = ⟨name, api.scheme, api.host, block.steps,
          importsOf api (steps.zip block.steps)⟩ := by
  rw [build, Built.bind_eq_ok]
  constructor
  · rintro ⟨⟨tests, context⟩, h, hblock⟩
    obtain rfl := Built.pure_eq_ok.mp hblock
    obtain ⟨hchained, hcases, hor⟩ := buildSteps_eq_ok.mp ⟨context, h, rfl⟩
    rw [Imports.empty_or] at hor
    exact ⟨hchained, hcases, by rw [hor]⟩
  · rintro ⟨hchained, hcases, hblock⟩
    have hrun : ∃ context, buildSteps api config name steps [] {} = .ok (block.steps, context) ∧
        context.imports = importsOf api (steps.zip block.steps) :=
      buildSteps_eq_ok.mpr ⟨hchained, hcases, Imports.empty_or _⟩
    obtain ⟨context, h, himports⟩ := hrun
    refine ⟨(block.steps, context), h, Built.pure_eq_ok.mpr ?_⟩
    rw [himports]
    exact hblock.symm

/-- **Each case of a sequence** is built from one of its steps. -/
theorem exists_step_of_mem_steps {name : String} {steps : List SequenceStep} {block : SequenceBlock}
    (h : build api config name steps = .ok block) {t : TestCase} (ht : t ∈ block.steps) :
    ∃ step ∈ steps, ∃ operation, api.operation step.path step.operation = .ok operation ∧
      TestCase.build api config (RunContext.inherit operation.security api.security)
        (caseRequest step) = .ok t := by
  obtain ⟨-, hcases, -⟩ := build_eq_ok.mp h
  obtain ⟨step, hstep, hcase⟩ := Pairing.exists_left_of_mem hcases ht
  obtain ⟨operation, hoperation, hcase⟩ := Built.bind_eq_ok.mp hcase
  exact ⟨step, hstep, operation, (stepOperation_eq_ok.mp hoperation).1, hcase⟩

end ApiScaffold.SequenceBlock
