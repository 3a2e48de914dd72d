import ApiScaffold.Proofs.Generation.Results
import ApiScaffold.Proofs.Imports
import ApiScaffold.Proofs.Path.Run
import ApiScaffold.Proofs.TestCase

/-!
# The shape of a run

A run configuration selects paths and sequences, and everything else in it sets values: where requests
go, what they carry, how wide a line may be, which operations are load-tested. The shape of a case
(`TestCase.shape`) is what is left of it without these values, and the shape of a block is made of
those of its cases. Values never change a shape, nor what fails and why.

Two runs are compared step by step. Each builder of the program has a lemma `…_shape`: from contexts of
one shape, two configurations give results of one shape, or the same fault, and contexts of one shape.
-/

namespace ApiScaffold

/-! ### Shapes -/

/-- The name of a value, with nothing for it. -/
def ResolvedValue.shape (v : ResolvedValue) : ResolvedValue := ⟨v.name, .missing⟩

/-- **Shape of a case**: the case without its URL, its short description and its load test, and with
the names of its query and body values alone. -/
def TestCase.shape (t : TestCase) : TestCase :=
  { t with
    summary := ""
    requestPath := ⟨[]⟩
    queryValues := t.queryValues.map (·.shape)
    bodyValues := t.bodyValues.map (·.shape)
    loadTest := none }

/-- Imports without the load tester. -/
def Imports.shape (imports : Imports) : Imports := { imports with loadTest := false }

/-- The context with the shape of its imports. -/
def RunContext.shape (context : RunContext) : RunContext :=
  { context with imports := context.imports.shape }

/-- The block with the shapes of its cases. -/
def OperationBlock.shape (block : OperationBlock) : OperationBlock :=
  { block with tests := block.tests.map (·.shape) }

/-- The block with the shapes of its operations and of its imports. -/
def PathBlock.shape (block : PathBlock) : PathBlock :=
  { block with
    operations := block.operations.map (·.shape)
    imports := block.imports.shape }

/-- The block with the shapes of its steps and of its imports. -/
def SequenceBlock.shape (block : SequenceBlock) : SequenceBlock :=
  { block with
    steps := block.steps.map (·.shape)
    imports := block.imports.shape }

/-- **Shape of a block**, which is of the same kind. -/
def Block.shape : Block → Block
  | .path block => .path block.shape
  | .sequence block => .sequence block.shape
  | .environment block => .environment block

/-- **Shape of an output**: its name with the shape of its block. -/
def Output.shape (output : Output) : Output := ⟨output.name, output.block.shape⟩

variable (api : Description) (c d : RunConfig)

/-! ### One case -/

namespace TestCase

@[simp] theorem hasSchema_shape (t : TestCase) : t.shape.hasSchema = t.hasSchema := rfl

@[simp] theorem validates_shape (t : TestCase) : t.shape.validates = t.validates := rfl

/-- Values of a body differ in their expressions only, whatever they are drawn from. -/
theorem bodyValuesOf_shape (pool pool' : ValuePool) (deps : Dependencies) (ps : List Parameter) :
    (bodyValuesOf api pool deps ps).map (·.map ResolvedValue.shape) =
      (bodyValuesOf api pool' deps ps).map (·.map ResolvedValue.shape) := by
  refine Built.map_bind_congr_right fun names => ?_
  refine congrArg Except.ok ?_
  change (names.flatten.map _).map ResolvedValue.shape =
    (names.flatten.map _).map ResolvedValue.shape
  rw [List.map_map, List.map_map]
  rfl

/-- The shape of an assembled case does not depend on the configuration, and of its body values only the
shapes matter. -/
theorem assemble_shape {request : CaseRequest} {answer : Response} {parameters : ParameterBuckets}
    {credentials : Credentials} {values values' : List ResolvedValue}
    (h : values.map ResolvedValue.shape = values'.map ResolvedValue.shape) :
    (assemble api c request answer parameters credentials values).shape =
      (assemble api d request answer parameters credentials values').shape := by
  simp only [assemble, shape, h, List.map_map]
  rfl

/-- **A case has one shape** for all configurations, or one fault: no value is looked at before the last
check. -/
theorem build_shape (security : List SecurityRequirement) (request : CaseRequest) :
    (build api c security request).map shape = (build api d security request).map shape := by
  rw [build, build]
  -- lookups, parameters and credentials do not read the configuration
  refine Built.map_bind_congr_right fun item => Built.map_bind_congr_right fun operation => ?_
  refine Built.map_bind_congr_right fun answer => Built.map_bind_congr_right fun parameters => ?_
  refine Built.map_bind_congr_right fun credentials => ?_
  -- a pool decides on expressions only, so that the schemas of bodies fail alike
  refine Built.map_bind_congr (bodyValuesOf_shape api _ _ _ _) fun values values' h => ?_
  exact congrArg Except.ok (assemble_shape api c d h)

end TestCase

namespace RunContext

@[simp] theorem security_shape (context : RunContext) : context.shape.security = context.security :=
  rfl

/-- After two cases that need the validator alike, contexts of one shape still have one: a load test
leaves no trace in it. -/
theorem shape_note_congr {context context' : RunContext} (h : context.shape = context'.shape)
    (t u : TestCase) (validates : Bool) :
    ((context.noteLoadTest t).noteImports validates).shape =
      ((context'.noteLoadTest u).noteImports validates).shape := by
  change context.shape.noteImports validates = context'.shape.noteImports validates
  rw [h]

theorem shape_adopt_congr {context context' : RunContext} (h : context.shape = context'.shape)
    (operation : Operation) :
    (context.adopt api operation).shape = (context'.adopt api operation).shape := by
  change context.shape.adopt api operation = context'.shape.adopt api operation
  rw [h]

end RunContext

/-! ### One path -/

namespace OperationBlock

/-- **A run over requests**: from contexts of one shape, the cases have the same shapes up to the same fault,
and so have the contexts at the end. -/
theorem buildTests_shape (requests : List CaseRequest) {context context' : RunContext}
    (h : context.shape = context'.shape) :
    (buildTests api c requests context).1.map (·.map TestCase.shape) =
        (buildTests api d requests context').1.map (·.map TestCase.shape) ∧
      (buildTests api c requests context).2.shape =
        (buildTests api d requests context').2.shape := by
  induction requests generalizing context context' with
  | nil => exact ⟨rfl, h⟩
  | cons request rest ih =>
    -- of the context a case reads the security alone, and that is in the shape
    have hsecurity : context.security = context'.security := by
      rw [← RunContext.security_shape, h, RunContext.security_shape]
    have hcase : (TestCase.build api c context.security request).map TestCase.shape =
        (TestCase.build api d context'.security request).map TestCase.shape := by
      rw [hsecurity]
      exact TestCase.build_shape api c d _ request
    obtain ⟨fault, hc, hd⟩ | ⟨t, u, hc, hd, htu⟩ := Built.map_eq_map.mp hcase
    · rw [buildTests, buildTests, RunContext.build_eq_of_error context hc,
        RunContext.build_eq_of_error context' hd]
      exact ⟨rfl, h⟩
    · have hvalidates : t.validates = u.validates := by
        rw [← TestCase.validates_shape, htu, TestCase.validates_shape]
      have hafter : (context.after t).shape = (context'.after u).shape := by
        rw [← RunContext.noteImports_noteLoadTest, ← RunContext.noteImports_noteLoadTest, hvalidates]
        exact RunContext.shape_note_congr h t u _
      obtain ⟨htests, hlast⟩ := ih hafter
      rw [buildTests_cons hc, buildTests_cons hd]
      refine ⟨Built.map_map_congr htests fun ts us htsus => ?_, hlast⟩
      rw [List.map_cons, List.map_cons, htu, htsus]

/-- **An operation has one shape** for all configurations, or one fault. What it asks of the context is
part of the shape, so this is handed on from test to test. -/
theorem build_shape (path : String) (method : Method) {context context' : RunContext}
    (h : context.shape = context'.shape) :
    (build api c path method context).1.map shape =
        (build api d path method context').1.map shape ∧
      (build api c path method context).2.shape = (build api d path method context').2.shape := by
  cases ho : api.operation path method with
  | error fault =>
    rw [build, build, ho]
    exact ⟨rfl, h⟩
  | ok operation =>
    rw [build_of_operation ho, build_of_operation ho]
    obtain ⟨htests, hlast⟩ :=
      buildTests_shape api c d _ (RunContext.shape_adopt_congr api h operation)
    exact ⟨Built.map_map_congr htests fun ts us htsus => congrArg (mk method) htsus, hlast⟩

end OperationBlock

namespace PathBlock

theorem buildOperations_shape (path : String) (methods : List Method)
    {context context' : RunContext} (h : context.shape = context'.shape) :
    (buildOperations api c path methods context).1.map (·.map OperationBlock.shape) =
        (buildOperations api d path methods context').1.map (·.map OperationBlock.shape) ∧
      (buildOperations api c path methods context).2.shape =
        (buildOperations api d path methods context').2.shape := by
  induction methods generalizing context context' with
  | nil => exact ⟨rfl, h⟩
  | cons method rest ih =>
    obtain ⟨hblock, hmid⟩ := OperationBlock.build_shape api c d path method h
    rw [buildOperations, buildOperations]
    generalize OperationBlock.build api c path method context = run at hblock hmid
    generalize OperationBlock.build api d path method context' = run' at hblock hmid
    obtain ⟨x, mid⟩ := run
    obtain ⟨y, mid'⟩ := run'
    obtain ⟨fault, rfl, rfl⟩ | ⟨block, block', rfl, rfl, hshape⟩ := Built.map_eq_map.mp hblock
    · exact ⟨rfl, hmid⟩
    · obtain ⟨hmore, hlast⟩ := ih hmid
      refine ⟨Built.map_map_congr hmore fun more more' hmore => ?_, hlast⟩
      rw [List.map_cons, List.map_cons, hshape, hmore]

/-- **A path has one shape** for all configurations, or no block for any of them, or one fault. -/
theorem build_shape (path : String) :
    (build api c path).map (·.map shape) = (build api d path).map (·.map shape) := by
  rw [build, build]
  refine Built.map_bind_congr_right fun item => ?_
  obtain ⟨hoperations, hcontext⟩ :=
    buildOperations_shape api c d path (item.active.map (·.1)) (Eq.refl (RunContext.shape {}))
  generalize buildOperations api c path (item.active.map (·.1)) {} = run at hoperations hcontext
  generalize buildOperations api d path (item.active.map (·.1)) {} = run' at hoperations hcontext
  obtain ⟨x, context⟩ := run
  obtain ⟨y, context'⟩ := run'
  refine Built.map_bind_congr hoperations fun operations operations' h => congrArg Except.ok ?_
  have himports : context.imports.shape = context'.imports.shape :=
    congrArg RunContext.imports hcontext
  -- whether there is a block depends on how many operations there are
  have hempty : operations.isEmpty = operations'.isEmpty := by
    rw [← List.isEmpty_map, h, List.isEmpty_map]
  rw [hempty]
  cases operations'.isEmpty with
  | true => rfl
  | false => simp [shape, h, himports]

end PathBlock

/-! ### One sequence -/

namespace SequenceBlock

theorem buildSteps_shape (name : String) (steps : List SequenceStep) (earlier : List String)
    {context context' : RunContext} (h : context.shape = context'.shape) :
    (buildSteps api c name steps earlier context).map
        (Prod.map (·.map TestCase.shape) RunContext.shape) =
      (buildSteps api d name steps earlier context').map
        (Prod.map (·.map TestCase.shape) RunContext.shape) := by
  induction steps generalizing earlier context context' with
  | nil => exact congrArg Except.ok (Prod.ext rfl h)
  | cons step rest ih =>
    rw [buildSteps, buildSteps]
    -- labels and sources are checked without the configuration
    refine Built.map_bind_congr_right fun _ => Built.map_bind_congr_right fun operation => ?_
    have hcase : (TestCase.build api c (context.adopt api operation).security
          (caseRequest step)).map TestCase.shape =
        (TestCase.build api d (context'.adopt api operation).security
          (caseRequest step)).map TestCase.shape :=
      TestCase.build_shape api c d _ _
    obtain ⟨fault, hc, hd⟩ | ⟨t, u, hc, hd, htu⟩ := Built.map_eq_map.mp hcase
    · rw [RunContext.build_eq_of_error _ hc, RunContext.build_eq_of_error _ hd]
      simp only [Built.error_bind]
    · rw [RunContext.build_eq_of_ok _ hc, RunContext.build_eq_of_ok _ hd]
      simp only [Built.ok_bind]
      refine Built.map_bind_congr (ih _ ?_) ?_
      · have hschema : t.hasSchema = u.hasSchema := by
          rw [← TestCase.hasSchema_shape, htu, TestCase.hasSchema_shape]
        rw [hschema]
        exact RunContext.shape_note_congr (RunContext.shape_adopt_congr api h operation) t u _
      · rintro ⟨ts, last⟩ ⟨us, last'⟩ hmore
        obtain ⟨htsus, hlast⟩ := Prod.mk.inj hmore
        refine congrArg Except.ok (Prod.ext ?_ hlast)
        change (t :: ts).map TestCase.shape = (u :: us).map TestCase.shape
        rw [List.map_cons, List.map_cons, htu]
        exact congrArg _ htsus

/-- **A sequence has one shape** for all configurations, or one fault. -/
theorem build_shape (name : String) (steps : List SequenceStep) :
    (build api c name steps).map shape = (build api d name steps).map shape := by
  rw [build, build]
  refine Built.map_bind_congr
    (buildSteps_shape api c d name steps [] (Eq.refl (RunContext.shape {}))) ?_
  rintro ⟨ts, context⟩ ⟨us, context'⟩ h
  obtain ⟨htests, hcontext⟩ := Prod.mk.inj h
  have himports : context.imports.shape = context'.imports.shape :=
    congrArg RunContext.imports hcontext
  refine congrArg Except.ok ?_
  simp [shape, himports, htests]

end SequenceBlock

/-! ### The run -/

namespace Generation

/-- A result with the shape of its block. -/
def resultShape (result : String × Built (Option Block)) : String × Built (Option Block) :=
  (result.1, result.2.map (·.map Block.shape))

/-- Results of one shape are sorted into outputs of one shape and the same failures. -/
theorem ofResults_map_resultShape (results : List (String × Built (Option Block))) :
    ofResults (results.map resultShape) =
      ⟨(ofResults results).outputs.map Output.shape, (ofResults results).failures⟩ := by
  have houtput : output? ∘ resultShape = fun result => (output? result).map Output.shape := by
    funext ⟨name, result⟩
    rcases result with fault | _ | block <;> rfl
  have hfailure : failure? ∘ resultShape = failure? := by
    funext ⟨name, result⟩
    rcases result with fault | _ | block <;> rfl
  rw [ofResults, ofResults, List.filterMap_map, List.filterMap_map, houtput, hfailure,
    List.map_filterMap]

theorem pathResult_shape (path : String) :
    resultShape (pathResult api c path) = resultShape (pathResult api d path) := by
  have h : ((PathBlock.build api c path).map (·.map Block.path)).map (·.map Block.shape) =
      ((PathBlock.build api d path).map (·.map Block.path)).map (·.map Block.shape) := by
    refine Built.map_map_congr (PathBlock.build_shape api c d path) fun block block' h => ?_
    rw [Option.map_map, Option.map_map]
    change block.map (Block.path ∘ PathBlock.shape) = block'.map (Block.path ∘ PathBlock.shape)
    rw [← Option.map_map, h, Option.map_map]
  exact congrArg (Prod.mk _) h

theorem sequenceResult_shape (sequence : String × List SequenceStep) :
    resultShape (sequenceResult api c sequence) = resultShape (sequenceResult api d sequence) := by
  refine congrArg (Prod.mk _) (Built.map_map_congr
    (SequenceBlock.build_shape api c d sequence.1 sequence.2) fun block block' h => ?_)
  exact congrArg (fun b => some (Block.sequence b)) h

/-- The results of two runs have the same shapes, one by one. -/
theorem results_shape (hpaths : c.pathNames = d.pathNames) (hsequences : c.sequences = d.sequences) :
    (results api c).map resultShape = (results api d).map resultShape := by
  have htargets : targets api c = targets api d := by
    rw [targets, targets, hpaths]
  rw [results, results, builtResults, builtResults, htargets, hsequences]
  simp only [List.map_append, List.map_map]
  congr 2
  · exact List.map_congr_left fun path _ => pathResult_shape api c d path
  · exact List.map_congr_left fun sequence _ => sequenceResult_shape api c d sequence

/-- **Values never change the shape of a run.** Two configurations that select the same paths and
sequences give outputs under the same names and of the same shapes, in the same order, and they fail at the
same names with the same faults. -/
theorem generate_shape_eq (hpaths : c.pathNames = d.pathNames)
    (hsequences : c.sequences = d.sequences) :
    (generate api c).outputs.map Output.shape = (generate api d).outputs.map Output.shape ∧
      (generate api c).failures = (generate api d).failures := by
  have h : ofResults ((results api c).map resultShape) =
      ofResults ((results api d).map resultShape) :=
    congrArg ofResults (results_shape api c d hpaths hsequences)
  rw [ofResults_map_resultShape, ofResults_map_resultShape, ← generate_eq, ← generate_eq] at h
  exact Generation.mk.inj h

/-- Full URLs, an identifier, a wider line and a load test change the tests for pets, but not their
shape. -/
theorem generate_shape_eq_pets :
    let sequences := [("read", [⟨"read", "/pets/\x7bid\x7d", .get, []⟩])]
    let c : RunConfig :=
      { testModule := .request
        pathParams := [("id", .str "7")]
        maxLen := some 120
        loadTest := [⟨"/pets", .post, {}⟩]
        sequences }
    let d : RunConfig := { sequences }
    c.pathNames = d.pathNames ∧ c.sequences = d.sequences ∧
      (generate .pets c).outputs ≠ (generate .pets d).outputs ∧
      (generate .pets c).outputs.map Output.shape = (generate .pets d).outputs.map Output.shape ∧
      (generate .pets c).failures = (generate .pets d).failures := by
  intro sequences c d
  refine ⟨rfl, rfl, fun h => ?_, generate_shape_eq .pets c d rfl rfl⟩
  have hload := congrArg (List.map fun o => o.block.tests.map (·.loadTest.isSome)) h
  revert hload
  decide +kernel

end Generation

end ApiScaffold
