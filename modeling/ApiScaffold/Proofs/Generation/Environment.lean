import ApiScaffold.Proofs.Credentials
import ApiScaffold.Proofs.Generation.Results
import ApiScaffold.Proofs.Path.Run
import ApiScaffold.Proofs.Sequence.Run

/-!
# Credentials and the environment file

The cases of a run read credentials from variables, and one file at its end lists variables. The two are
made apart: a case looks at the requirement of its operation, the file at the declared schemes. Still
every variable that a case reads is in the file, since a credential is placed only for a declared scheme.
-/

namespace ApiScaffold

/-- Whether a block is that of an environment file. -/
def Block.IsEnvironment : Block → Prop
  | .path _ => False
  | .sequence _ => False
  | .environment _ => True

/-! ### Where cases come from -/

/-- **Cases of operations**: built from a request for the operation that they name, under its security
requirements. -/
def TestCase.IsOfOperation (api : Description) (config : RunConfig) (t : TestCase)
    (operation : Operation) : Prop :=
  api.operation t.path t.method = .ok operation ∧ ∃ request,
    TestCase.build api config (RunContext.inherit operation.security api.security) request = .ok t

namespace TestCase

variable {api : Description} {config : RunConfig} {t : TestCase} {operation : Operation}

theorem isOfOperation_of_build {request : CaseRequest}
    (hoperation : api.operation request.path request.method = .ok operation)
    (h : build api config (RunContext.inherit operation.security api.security) request = .ok t) :
    t.IsOfOperation api config operation := by
  refine ⟨?_, request, h⟩
  obtain ⟨_, _, _, _, rfl⟩ := assembled_of_build h
  exact hoperation

/-- The credentials of a case are those of the first requirement of its operation. -/
theorem IsOfOperation.placedFrom (h : t.IsOfOperation api config operation) :
    t.credentials.PlacedFrom api
      (Credentials.namesOf (RunContext.inherit operation.security api.security)) := by
  obtain ⟨-, request, h⟩ := h
  exact placedFrom_of_build h

end TestCase

theorem PathBlock.exists_isOfOperation {api : Description} {config : RunConfig} {path : String}
    {block : PathBlock} (h : build api config path = .ok (some block)) {t : TestCase}
    (ht : t ∈ block.tests) : ∃ operation, t.IsOfOperation api config operation := by
  obtain ⟨o, -, -, operation, hoperation, request, hrequest, hcase⟩ :=
    exists_request_of_mem_tests h ht
  obtain ⟨rfl, hmethod⟩ := OperationBlock.mem_requests hrequest
  rw [← hmethod] at hoperation
  exact ⟨operation, TestCase.isOfOperation_of_build hoperation hcase⟩

theorem SequenceBlock.exists_isOfOperation {api : Description} {config : RunConfig} {name : String}
    {steps : List SequenceStep} {block : SequenceBlock}
    (h : build api config name steps = .ok block) {t : TestCase} (ht : t ∈ block.steps) :
    ∃ operation, t.IsOfOperation api config operation := by
  obtain ⟨step, -, operation, hoperation, hcase⟩ := exists_step_of_mem_steps h ht
  exact ⟨operation, TestCase.isOfOperation_of_build hoperation hcase⟩

namespace Generation

variable {api : Description} {config : RunConfig}

/-- **Each case of a run is one of an operation.** -/
theorem exists_isOfOperation {o : Output} (ho : o ∈ (generate api config).outputs) {t : TestCase}
    (ht : t ∈ o.block.tests) : ∃ operation, t.IsOfOperation api config operation := by
  rcases mem_outputs.mp ho with ⟨_, -, block, h, rfl⟩ | ⟨_, -, block, h, rfl⟩ | ⟨-, rfl⟩
  · exact PathBlock.exists_isOfOperation h ht
  · exact SequenceBlock.exists_isOfOperation h ht
  · cases ht

/-! ### The environment file -/

/-- What is built for paths and sequences is no environment file. -/
theorem not_isEnvironment_of_mem {o : Output}
    (h : o ∈ (builtResults api config).filterMap output?) : ¬ o.block.IsEnvironment := by
  rcases mem_filterMap_builtResults.mp h with ⟨_, -, _, -, rfl⟩ | ⟨_, -, _, -, rfl⟩
  · exact id
  · exact id

/-- **The environment file** of a run: the last of its outputs and the only one of its kind. -/
def HasEnvironment (g : Generation) (variableNames : List String) : Prop :=
  ∃ before, g.outputs = before ++ [⟨Output.environmentName, .environment ⟨variableNames⟩⟩] ∧
    ∀ o ∈ before, ¬ o.block.IsEnvironment

theorem hasEnvironment (h : api.securityDefinitions ≠ []) :
    (generate api config).HasEnvironment api.environmentNames := by
  refine ⟨(builtResults api config).filterMap output?, ?_, fun _ => not_isEnvironment_of_mem⟩
  rw [outputs_eq, if_neg (by simpa using h)]
  rfl

/-- **Credentials agree with the environment file.** In each case of a run, every place for a credential
holds what the last scheme that belongs there, among those of the first requirement of its operation, puts
into it, and is empty exactly if there is none. As soon as a case reads a variable, the last output of
the run and no other is the environment file, and it lists the variable. -/
theorem credentials_in_environment (api : Description) (config : RunConfig) {o : Output}
    (ho : o ∈ (generate api config).outputs) {t : TestCase} (ht : t ∈ o.block.tests) :
    (∃ operation, api.operation t.path t.method = .ok operation ∧
      t.credentials.PlacedFrom api
        (Credentials.namesOf (RunContext.inherit operation.security api.security))) ∧
    ∀ v ∈ t.credentials.variableNames, ∃ variableNames,
      (generate api config).HasEnvironment variableNames ∧ v ∈ variableNames := by
  obtain ⟨operation, hcase⟩ := exists_isOfOperation ho ht
  refine ⟨⟨operation, hcase.1, hcase.placedFrom⟩, fun v hv => ?_⟩
  have hlisted : v ∈ api.environmentNames := hcase.placedFrom.mem_environmentNames hv
  have hdeclared : api.securityDefinitions ≠ [] := by
    intro hnil
    rw [Description.environmentNames, hnil] at hlisted
    cases hlisted
  exact ⟨api.environmentNames, hasEnvironment hdeclared, hlisted⟩

/-- The case that adds a pet reads its key from a variable of the environment file. -/
theorem credentials_in_environment_pets :
    ∃ o ∈ (generate .pets {}).outputs, ∃ t ∈ o.block.tests,
      t.credentials = { headerKey := some ⟨"KEY", "X-Key"⟩ } ∧
        ∃ variableNames, (generate .pets {}).HasEnvironment variableNames ∧
          "KEY" ∈ variableNames := by
  have hcase : ∃ o ∈ (generate .pets {}).outputs, ∃ t ∈ o.block.tests,
      t.credentials = { headerKey := some ⟨"KEY", "X-Key"⟩ } :=
    ⟨_, List.mem_cons_self, _, List.mem_cons_self, by decide +kernel⟩
  obtain ⟨o, ho, t, ht, hcredentials⟩ := hcase
  refine ⟨o, ho, t, ht, hcredentials, ?_⟩
  refine (credentials_in_environment .pets {} ho ht).2 "KEY" ?_
  rw [hcredentials]
  exact List.mem_singleton_self _

end Generation

end ApiScaffold
