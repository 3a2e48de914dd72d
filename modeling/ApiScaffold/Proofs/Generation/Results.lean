import ApiScaffold.Generation
import ApiScaffold.Proofs.Built
import Mathlib.Data.List.Basic

/-!
# The results of a run

A run sorts what it builds while it goes. Seen from its end there is one list of results under names
(`Generation.results`): those of the paths, those of the sequences, and last the environment file.
The outputs of the run are the blocks among them and its failures the faults, each in that order.
-/

namespace ApiScaffold

/-- The cases of a block. -/
def Block.tests : Block → List TestCase
  | .path block => block.tests
  | .sequence block => block.steps
  | .environment _ => []

namespace Generation

variable {api : Description} {config : RunConfig}

/-! ### Sorting results -/

/-- The output of a result, if there is a block. -/
def output? : String × Built (Option Block) → Option Output
  | (name, .ok (some block)) => some ⟨name, block⟩
  | _ => none

/-- The failure of a result, if there is a fault. -/
def failure? : String × Built (Option Block) → Option Failure
  | (name, .error fault) => some ⟨name, fault⟩
  | _ => none

/-- **Sorted results**: the blocks are outputs, the faults are failures. -/
def ofResults (results : List (String × Built (Option Block))) : Generation :=
  ⟨results.filterMap output?, results.filterMap failure?⟩

theorem push_ofResults (results : List (String × Built (Option Block)))
    (result : String × Built (Option Block)) :
    (ofResults results).push result.1 result.2 = ofResults (results ++ [result]) := by
  obtain ⟨name, fault | _ | block⟩ := result <;> simp [push, ofResults, output?, failure?]

/-- Pushing results one after the other sorts them in that order. -/
theorem foldl_push {α : Type} (f : α → String × Built (Option Block)) (xs : List α)
    (results : List (String × Built (Option Block))) :
    xs.foldl (fun g x => g.push (f x).1 (f x).2) (ofResults results) =
      ofResults (results ++ xs.map f) := by
  induction xs generalizing results with
  | nil => rw [List.map_nil, List.append_nil]; rfl
  | cons x rest ih =>
    rw [List.foldl_cons, push_ofResults, ih, List.map_cons, List.append_assoc]
    rfl

/-! ### The results in order -/

/-- The result of a path, under the name of its output. -/
def pathResult (api : Description) (config : RunConfig) (path : String) :
    String × Built (Option Block) :=
  (Output.pathName path, (PathBlock.build api config path).map (·.map .path))

/-- The result of a sequence. -/
def sequenceResult (api : Description) (config : RunConfig)
    (sequence : String × List SequenceStep) : String × Built (Option Block) :=
  (sequence.1,
    (SequenceBlock.build api config sequence.1 sequence.2).map fun b => some (.sequence b))

/-- The output that holds the environment file. -/
def environmentOutput (api : Description) : Output :=
  ⟨Output.environmentName, .environment ⟨api.environmentNames⟩⟩

/-- The environment file as a result; it is there as soon as there is a scheme. -/
def environmentResults (api : Description) : List (String × Built (Option Block)) :=
  if api.securityDefinitions.isEmpty then []
  else [(Output.environmentName, .ok (some (environmentOutput api).block))]

/-- The results of the paths and sequences of a run. -/
def builtResults (api : Description) (config : RunConfig) :
    List (String × Built (Option Block)) :=
  (targets api config).map (pathResult api config) ++
    config.sequences.map (sequenceResult api config)

/-- **Results of a run**: paths, sequences, environment file. -/
def results (api : Description) (config : RunConfig) : List (String × Built (Option Block)) :=
  builtResults api config ++ environmentResults api

/-- **A run sorts its results.** Subjects do not see each other: each gives its own result, and the run
only puts outputs and failures apart. -/
theorem generate_eq : generate api config = ofResults (results api config) := by
  have hpaths : (targets api config).foldl (pushPath api config) {} =
      ofResults ((targets api config).map (pathResult api config)) :=
    foldl_push (pathResult api config) _ []
  have hsequences : config.sequences.foldl (pushSequence api config)
      (ofResults ((targets api config).map (pathResult api config))) =
        ofResults (builtResults api config) :=
    foldl_push (sequenceResult api config) _ _
  rw [generate, hpaths, hsequences, pushEnvironment, results, environmentResults]
  by_cases h : api.securityDefinitions.isEmpty = true
  · rw [if_pos h, if_pos h, List.append_nil]
  · rw [if_neg h, if_neg h]
    exact push_ofResults _ (Output.environmentName, .ok (some (environmentOutput api).block))

/-! ### Outputs -/

theorem output?_pathResult {path : String} {o : Output} :
    output? (pathResult api config path) = some o ↔
      ∃ block, PathBlock.build api config path = .ok (some block) ∧
        ⟨Output.pathName path, .path block⟩ = o := by
  rw [pathResult]
  rcases PathBlock.build api config path with fault | _ | block <;> simp [output?, Except.map]

theorem output?_sequenceResult {sequence : String × List SequenceStep} {o : Output} :
    output? (sequenceResult api config sequence) = some o ↔
      ∃ block, SequenceBlock.build api config sequence.1 sequence.2 = .ok block ∧
        ⟨sequence.1, .sequence block⟩ = o := by
  rw [sequenceResult]
  cases SequenceBlock.build api config sequence.1 sequence.2 <;> simp [output?, Except.map]

/-- **Outputs of paths and sequences** come from their blocks, under their names. -/
theorem mem_filterMap_builtResults {o : Output} :
    o ∈ (builtResults api config).filterMap output? ↔
      (∃ path ∈ targets api config, ∃ block,
        PathBlock.build api config path = .ok (some block) ∧
          ⟨Output.pathName path, .path block⟩ = o) ∨
      ∃ sequence ∈ config.sequences, ∃ block,
        SequenceBlock.build api config sequence.1 sequence.2 = .ok block ∧
          ⟨sequence.1, .sequence block⟩ = o := by
  rw [List.mem_filterMap, builtResults]
  simp only [List.mem_append, List.mem_map, or_and_right, exists_or, exists_exists_and_eq_and,
    output?_pathResult, output?_sequenceResult]

/-- **The environment file comes last**, and it is there exactly if a scheme is declared. -/
theorem outputs_eq : (generate api config).outputs =
    (builtResults api config).filterMap output? ++
      if api.securityDefinitions.isEmpty then [] else [environmentOutput api] := by
  rw [generate_eq, ofResults, results, environmentResults, List.filterMap_append]
  by_cases h : api.securityDefinitions.isEmpty = true
  · rw [if_pos h, if_pos h, List.filterMap_nil]
  · rw [if_neg h, if_neg h]
    rfl

/-- **Outputs of a run**: the block of a path, the block of a sequence, or the environment file. -/
theorem mem_outputs {o : Output} : o ∈ (generate api config).outputs ↔
    (∃ path ∈ targets api config, ∃ block,
      PathBlock.build api config path = .ok (some block) ∧
        ⟨Output.pathName path, .path block⟩ = o) ∨
    (∃ sequence ∈ config.sequences, ∃ block,
      SequenceBlock.build api config sequence.1 sequence.2 = .ok block ∧
        ⟨sequence.1, .sequence block⟩ = o) ∨
    (api.securityDefinitions ≠ [] ∧ environmentOutput api = o) := by
  rw [outputs_eq, List.mem_append, mem_filterMap_builtResults, or_assoc]
  cases api.securityDefinitions <;> simp [eq_comm]

end Generation

end ApiScaffold
