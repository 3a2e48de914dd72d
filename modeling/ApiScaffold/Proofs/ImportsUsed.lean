import ApiScaffold.Proofs.Credentials
import ApiScaffold.Proofs.Pairing
import ApiScaffold.Proofs.Path.Run
import ApiScaffold.Proofs.Script.Drawing
import ApiScaffold.Proofs.Script.Heads
import ApiScaffold.Proofs.Sequence.Run

/-!
# Imports are there where they are used

A block says which imports its file needs while its cases are built, and the script decides line by
line what it calls. The two agree: a block asks for the validator exactly if a case of it is
validated, for the load tester exactly if a case has a load test, and for the environment exactly
if there are cases of a secured operation. So each test that calls a library, or reads a
credential, stands below its import, and no library is imported that no test calls.
-/

namespace ApiScaffold

/-! ### What a path asks for -/

namespace PathBlock

variable {api : Description} {config : RunConfig} {path : String} {block : PathBlock}

/-- **Imports of a path**: what its blocks ask for together. Nothing is imported for an operation that
gave no block. -/
theorem imports_of_build (h : build api config path = .ok (some block)) :
    block.imports = .join (block.operations.map (OperationBlock.importsOf api path)) := by
  obtain ⟨item, -, -, -, hblock⟩ := build_eq_some.mp h
  exact congrArg PathBlock.imports hblock

/-- A path imports the validator if one of its cases validates a body. -/
theorem validator_of_build (h : build api config path = .ok (some block)) :
    block.imports.validator = true ↔ ∃ t ∈ block.tests, t.validates = true := by
  rw [imports_of_build h, block.exists_mem_tests]
  simp only [OperationBlock.importsOf, Imports.validator_join, List.mem_map,
    exists_exists_and_eq_and]
  rfl

/-- It imports the load tester if one of its cases is load-tested. -/
theorem loadTest_of_build (h : build api config path = .ok (some block)) :
    block.imports.loadTest = true ↔ ∃ t ∈ block.tests, t.loadTest.isSome = true := by
  rw [imports_of_build h, block.exists_mem_tests]
  simp only [OperationBlock.importsOf, Imports.loadTest_join, List.mem_map,
    exists_exists_and_eq_and]
  rfl

/-- An operation asks for the environment when it is secured and has a response to test. -/
theorem env_of_isBlockOf {method : Method} {operation : Operation} {o : OperationBlock}
    (hoperation : api.operation path method = .ok operation)
    (h : OperationBlock.IsBlockOf api config path method o) :
    (OperationBlock.importsOf api path o).env = true ↔
      operation.responses ≠ [] ∧ RunContext.inherit operation.security api.security ≠ [] := by
  obtain ⟨rfl, other, hother, hcases⟩ := h
  obtain rfl := Except.ok.inj (hoperation.symm.trans hother)
  -- an operation without responses has no cases, and so asks for nothing even when it is secured
  have hrequests : OperationBlock.requestsOf api path o.method operation ≠ [] ↔
      operation.responses ≠ [] := OperationBlock.requestsOf_ne_nil
  have htests : o.tests ≠ [] ↔ operation.responses ≠ [] := by
    rw [← hrequests, ← List.length_pos_iff, ← List.length_pos_iff, hcases.length_eq]
  have hsecured : api.isSecured path o.method = true ↔
      RunContext.inherit operation.security api.security ≠ [] := by
    simp [Description.isSecured_iff, hoperation]
  rw [← htests, ← hsecured, OperationBlock.importsOf, Imports.env_join]
  cases o.tests <;> simp [Imports.ofCase]

/-- It imports the environment if an active operation with at least one response is secured. An
operation without responses has no case, so nothing reads a credential for it. -/
theorem env_of_build (h : build api config path = .ok (some block)) :
    block.imports.env = true ↔ ∃ item, api.pathItem path = .ok item ∧
      ∃ entry ∈ item.active, entry.2.responses ≠ [] ∧
        RunContext.inherit entry.2.security api.security ≠ [] := by
  obtain ⟨item, hitem, -, hblocks, -⟩ := build_eq_some.mp h
  have hentries : List.Forall₂ (fun (entry : Method × Operation) o =>
      (entry.2.responses ≠ [] ∧ RunContext.inherit entry.2.security api.security ≠ []) ↔
        (OperationBlock.importsOf api path o).env = true) item.active block.operations := by
    have hpairs := (List.forall₂_and_left _ _).mpr
      ⟨fun entry hentry => Description.operation_of_mem_active hitem hentry,
        List.forall₂_map_left_iff.mp hblocks⟩
    exact hpairs.imp fun entry o h => (env_of_isBlockOf h.1 h.2).symm
  rw [imports_of_build h, Imports.env_join]
  simp only [List.mem_map, exists_exists_and_eq_and, hitem]
  rw [← Pairing.exists_mem_congr hentries]
  simp

/-- **Credentials need the environment**: only cases of secured operations have any. -/
theorem env_of_credentials (h : build api config path = .ok (some block)) {t : TestCase}
    (ht : t ∈ block.tests) (hcredentials : t.credentials ≠ {}) : block.imports.env = true := by
  obtain ⟨o, ho, ht, operation, hoperation, request, -, hcase⟩ := exists_request_of_mem_tests h ht
  have hsecured : api.isSecured path o.method = true := by
    refine Description.isSecured_iff.mpr ⟨operation, hoperation, fun hnil => hcredentials ?_⟩
    rw [hnil] at hcase
    exact TestCase.credentials_of_build_nil hcase
  rw [imports_of_build h, Imports.env_join]
  refine ⟨_, List.mem_map_of_mem ho, Imports.env_join.mpr ⟨_, List.mem_map_of_mem ht, ?_⟩⟩
  exact hsecured

end PathBlock

/-! ### What a sequence asks for -/

namespace SequenceBlock

variable {api : Description} {config : RunConfig} {name : String} {steps : List SequenceStep}
  {block : SequenceBlock}

/-- The imports of a sequence are those of its steps, each under the security of its own operation. -/
theorem imports_of_build (h : build api config name steps = .ok block) :
    block.imports = .join ((steps.zip block.steps).map fun c => stepImports api c.1 c.2) := by
  obtain ⟨-, -, hblock⟩ := build_eq_ok.mp h
  exact congrArg SequenceBlock.imports hblock

/-- A sequence imports the validator if one of its steps validates a body. -/
theorem validator_of_build (h : build api config name steps = .ok block) :
    block.imports.validator = true ↔ ∃ t ∈ block.steps, t.validates = true := by
  obtain ⟨-, hcases, -⟩ := build_eq_ok.mp h
  rw [imports_of_build h, Imports.validator_join, ← Pairing.exists_mem_zip_right hcases.length_eq]
  simp only [List.mem_map, exists_exists_and_eq_and]
  rfl

/-- Its flag for load tests tells whether a step is load-tested, although no step of a script runs a
load test. -/
theorem loadTest_of_build (h : build api config name steps = .ok block) :
    block.imports.loadTest = true ↔ ∃ t ∈ block.steps, t.loadTest.isSome = true := by
  obtain ⟨-, hcases, -⟩ := build_eq_ok.mp h
  rw [imports_of_build h, Imports.loadTest_join, ← Pairing.exists_mem_zip_right hcases.length_eq]
  simp only [List.mem_map, exists_exists_and_eq_and]
  rfl

/-- It imports the environment if the operation of one of its steps is secured. -/
theorem env_of_build (h : build api config name steps = .ok block) :
    block.imports.env = true ↔ ∃ step ∈ steps, ∃ operation,
      api.operation step.path step.operation = .ok operation ∧
        RunContext.inherit operation.security api.security ≠ [] := by
  obtain ⟨-, hcases, -⟩ := build_eq_ok.mp h
  rw [imports_of_build h, Imports.env_join, ← Pairing.exists_mem_zip_left hcases.length_eq]
  simp only [List.mem_map, exists_exists_and_eq_and, ← Description.isSecured_iff]
  rfl

/-- **Credentials need the environment**: only cases of secured operations have any. -/
theorem env_of_credentials (h : build api config name steps = .ok block) {t : TestCase}
    (ht : t ∈ block.steps) (hcredentials : t.credentials ≠ {}) : block.imports.env = true := by
  obtain ⟨step, hstep, operation, hoperation, hcase⟩ := exists_step_of_mem_steps h ht
  refine (env_of_build h).mpr ⟨step, hstep, operation, hoperation, fun hnil => hcredentials ?_⟩
  rw [hnil] at hcase
  exact TestCase.credentials_of_build_nil hcase

end SequenceBlock

/-! ### Agreement -/

/-- **Reading a credential**: some line holds the variable of a credential of the case. -/
def Script.ReadsCredential (lines : Script.Lines) (t : TestCase) : Prop :=
  ∃ name ∈ t.credentials.variableNames, ∃ line ∈ lines, Script.Holds line (Script.variableCode name)

/-- **Imports of a path** as its cases need them. -/
structure PathBlock.ImportsAgree (api : Description) (path : String) (block : PathBlock) :
    Prop where
  validator : block.imports.validator = true ↔
    ∃ t ∈ block.tests, t.hasSchema = true ∧ t.returnType = jsonType
  loadTest : block.imports.loadTest = true ↔ ∃ t ∈ block.tests, t.loadTest.isSome = true
  env : block.imports.env = true ↔ ∃ item, api.pathItem path = .ok item ∧
    ∃ entry ∈ item.active, entry.2.responses ≠ [] ∧
      RunContext.inherit entry.2.security api.security ≠ []

/-- **Imports of a sequence** as its cases need them. -/
structure SequenceBlock.ImportsAgree (api : Description) (steps : List SequenceStep)
    (block : SequenceBlock) : Prop where
  validator : block.imports.validator = true ↔
    ∃ t ∈ block.steps, t.hasSchema = true ∧ t.returnType = jsonType
  loadTest : block.imports.loadTest = true ↔ ∃ t ∈ block.steps, t.loadTest.isSome = true
  env : block.imports.env = true ↔ ∃ step ∈ steps, ∃ operation,
    api.operation step.path step.operation = .ok operation ∧
      RunContext.inherit operation.security api.security ≠ []

namespace Renderer

open Script

/-- **A file that imports what it uses**: it holds the lines of each case; a case that calls the
validator or reads a credential follows the import, and the validator is imported only for a case
that calls it. -/
structure ImportsUsed (script : Lines) (cases : List TestCase) (lines : TestCase → Lines) :
    Prop where
  holds : ∀ t ∈ cases, lines t <:+: script
  validator : ∀ t ∈ cases, LineKind.validatorCall.In (lines t) →
    Follows script validatorSetup (lines t)
  environment : ∀ t ∈ cases, ReadsCredential (lines t) t →
    Follows script environmentSetup (lines t)
  validatorOnly : LineKind.validatorImport.In script →
    ∃ t ∈ cases, LineKind.validatorCall.In (lines t)

/-- **The same for the load tester**, which only the files of paths import. -/
structure LoadTesterUsed (script : Lines) (cases : List TestCase) (lines : TestCase → Lines) :
    Prop where
  loadTester : ∀ t ∈ cases, LineKind.loadTesterCall.In (lines t) →
    Follows script loadTesterSetup (lines t)
  loadTesterOnly : LineKind.loadTesterImport.In script →
    ∃ t ∈ cases, LineKind.loadTesterCall.In (lines t)

variable {api : Description} {config : RunConfig}

/-- A test calls the validator exactly if its case validates, whatever its dialect and style are. -/
theorem validatorCall_in_testLines (r : Renderer) (t : TestCase) :
    LineKind.validatorCall.In (r.testLines t) ↔ t.validates = true := by
  rw [in_testLines (by decide)]
  simp +decide

/-- A test calls the load tester exactly if its case is load-tested. -/
theorem loadTesterCall_in_testLines (r : Renderer) (t : TestCase) :
    LineKind.loadTesterCall.In (r.testLines t) ↔ t.loadTest.isSome = true := by
  rw [in_testLines (by decide)]
  simp +decide

/-- A step calls the validator exactly if its case validates. -/
theorem validatorCall_in_stepLines (r : Renderer) (t : TestCase) :
    LineKind.validatorCall.In (r.stepLines t) ↔ t.validates = true := by
  rw [in_stepLines (by decide)]
  simp +decide

/-- **The script of a path** has an import of the validator or of the environment exactly if one of its
cases uses it, and the import stands before all tests. -/
theorem importsUsed_pathScript (r : Renderer) {path : String} {block : PathBlock}
    (h : PathBlock.build api config path = .ok (some block)) :
    ImportsUsed (r.pathScript block) block.tests r.testLines := by
  obtain ⟨hvalidator, -, henvironment⟩ := r.infix_pathHead block
  constructor
  · intro t ht
    rw [pathScript_eq]
    obtain ⟨before, after, heq⟩ := exists_pathSuite_eq (r.pathHead block) r.testLines ht
    exact ⟨_, _, heq.symm⟩
  · intro t ht hcalls
    refine r.follows_pathScript block t ?_
    rw [validatorLines, linesIf_of_true] at hvalidator
    · exact hvalidator
    · exact (PathBlock.validator_of_build h).mpr ⟨t, ht, (r.validatorCall_in_testLines t).mp hcalls⟩
  · rintro t ht ⟨name, hname, -⟩
    refine r.follows_pathScript block t ?_
    rw [environmentLines, linesIf_of_true] at henvironment
    · exact henvironment
    · exact PathBlock.env_of_credentials h ht (Credentials.ne_empty_of_mem hname)
  · intro himport
    have hflag := (r.validatorImport_in_pathScript block).mp himport
    obtain ⟨t, ht, hvalidates⟩ := (PathBlock.validator_of_build h).mp hflag
    exact ⟨t, ht, (r.validatorCall_in_testLines t).mpr hvalidates⟩

/-- The same of the load tester, which only scripts of paths import. -/
theorem loadTesterUsed_pathScript (r : Renderer) {path : String} {block : PathBlock}
    (h : PathBlock.build api config path = .ok (some block)) :
    LoadTesterUsed (r.pathScript block) block.tests r.testLines := by
  obtain ⟨-, hloadTester, -⟩ := r.infix_pathHead block
  constructor
  · intro t ht hcalls
    refine r.follows_pathScript block t ?_
    rw [loadTesterLines, linesIf_of_true] at hloadTester
    · exact hloadTester
    · exact (PathBlock.loadTest_of_build h).mpr
        ⟨t, ht, (r.loadTesterCall_in_testLines t).mp hcalls⟩
  · intro himport
    have hflag := (r.loadTesterImport_in_pathScript block).mp himport
    obtain ⟨t, ht, hload⟩ := (PathBlock.loadTest_of_build h).mp hflag
    exact ⟨t, ht, (r.loadTesterCall_in_testLines t).mpr hload⟩

/-- **The script of a sequence** imports just what its steps use. -/
theorem importsUsed_sequenceScript (r : Renderer) {name : String} {steps : List SequenceStep}
    {block : SequenceBlock} (h : SequenceBlock.build api config name steps = .ok block) :
    ImportsUsed (r.sequenceScript block) block.steps r.stepLines := by
  obtain ⟨hvalidator, henvironment⟩ := r.infix_sequenceHead block
  constructor
  · intro t ht
    rw [sequenceScript_eq]
    obtain ⟨before, after, heq⟩ := exists_sequenceSuite_eq (r.sequenceHead block) r.stepLines ht
    exact ⟨_, _, heq.symm⟩
  · intro t ht hcalls
    refine r.follows_sequenceScript block t ?_
    rw [validatorLines, linesIf_of_true] at hvalidator
    · exact hvalidator
    · exact (SequenceBlock.validator_of_build h).mpr
        ⟨t, ht, (r.validatorCall_in_stepLines t).mp hcalls⟩
  · rintro t ht ⟨name, hname, -⟩
    refine r.follows_sequenceScript block t ?_
    rw [environmentLines, linesIf_of_true] at henvironment
    · exact henvironment
    · exact SequenceBlock.env_of_credentials h ht (Credentials.ne_empty_of_mem hname)
  · intro himport
    have hflag := (r.validatorImport_in_sequenceScript block).mp himport
    obtain ⟨t, ht, hvalidates⟩ := (SequenceBlock.validator_of_build h).mp hflag
    exact ⟨t, ht, (r.validatorCall_in_stepLines t).mpr hvalidates⟩

end Renderer

/-! ### All files -/

/-- A case validates if there is a schema and JSON comes back, and there is nothing more to it. -/
theorem TestCase.validates_iff (t : TestCase) :
    t.validates = true ↔ t.hasSchema = true ∧ t.returnType = jsonType := by
  simp [TestCase.validates]

/-- **Imports agree with uses.** The imports of every block are what its cases ask for. So in every
file, in either dialect and any assertion style, a test that calls the validator or the load
tester, or that reads a credential, stands below the import, and the validator and the load tester
are imported only for a test that calls them. -/
theorem imports_agree_with_uses (api : Description) (config : RunConfig) :
    (∀ path block, PathBlock.build api config path = .ok (some block) →
      block.ImportsAgree api path ∧
      ∀ m style, ∃ script,
        (Renderer.plain m style).render (.path block) = .ok (Script.text script) ∧
        Renderer.ImportsUsed script block.tests (Renderer.plain m style).testLines ∧
        Renderer.LoadTesterUsed script block.tests (Renderer.plain m style).testLines) ∧
    ∀ name steps block, SequenceBlock.build api config name steps = .ok block →
      block.ImportsAgree api steps ∧
      ∀ m style, ∃ script,
        (Renderer.plain m style).render (.sequence block) = .ok (Script.text script) ∧
        Renderer.ImportsUsed script block.steps (Renderer.plain m style).stepLines := by
  constructor
  · intro path block h
    constructor
    · refine ⟨?_, PathBlock.loadTest_of_build h, PathBlock.env_of_build h⟩
      simpa only [TestCase.validates_iff] using PathBlock.validator_of_build h
    · intro m style
      exact ⟨_, Renderer.render_plain_path m style block, Renderer.importsUsed_pathScript _ h,
        Renderer.loadTesterUsed_pathScript _ h⟩
  · intro name steps block h
    constructor
    · refine ⟨?_, SequenceBlock.loadTest_of_build h, SequenceBlock.env_of_build h⟩
      simpa only [TestCase.validates_iff] using SequenceBlock.validator_of_build h
    · intro m style
      exact ⟨_, Renderer.render_plain_sequence m style block,
        Renderer.importsUsed_sequenceScript _ h⟩

/-- Adding a pet needs the validator for what comes back and the environment for the key. -/
example : ∃ block, PathBlock.build .pets {} "/pets" = .ok (some block) ∧
    block.imports = ⟨true, true, false⟩ := ⟨_, rfl, rfl⟩

end ApiScaffold
