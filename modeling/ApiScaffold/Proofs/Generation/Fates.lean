import ApiScaffold.Proofs.Generation.Environment
import ApiScaffold.Proofs.Separation

/-!
# What becomes of the subjects of a run

A run is asked for paths and sequences, its subjects. Each of them meets one of three fates
(`Subject.Meets`): it is built and becomes an output, it has a fault and becomes a failure, or it is a path
without active operations, of which nothing is left. The outputs and failures of a run are read off these
fates in the order of the subjects, and only the environment file comes on top.

The fate of a subject does not depend on the other subjects. So a subject that fails can be put anywhere
among the others, and all that comes of it is its own failure.
-/

namespace ApiScaffold

/-! ### Subjects and fates -/

/-- **A subject of a run**: a path, or the steps of a sequence under its name. -/
inductive Subject where
  | path (path : String)
  | sequence (name : String) (steps : List SequenceStep)

/-- **What becomes of a subject.** -/
inductive Fate where
  | output (o : Output)
  | failure (f : Failure)
  | nothing

namespace Fate

/-- The output, if there is one. -/
def output? : Fate → Option Output
  | .output o => some o
  | _ => none

/-- The failure, if there is one. -/
def failure? : Fate → Option Failure
  | .failure f => some f
  | _ => none

end Fate

namespace Subject

variable {api : Description} {config : RunConfig}

/-- **Fates of subjects.** A path leaves nothing exactly where it is declared without an active
operation; a sequence always leaves something. -/
inductive Meets (api : Description) (config : RunConfig) : Subject → Fate → Prop
  | built {path : String} {block : PathBlock}
      (h : PathBlock.build api config path = .ok (some block)) :
      Meets api config (.path path) (.output ⟨Output.pathName path, .path block⟩)
  | inactive {path : String} {item : PathItem} (hitem : api.pathItem path = .ok item)
      (h : item.active = []) : Meets api config (.path path) .nothing
  | faulty {path : String} {fault : Fault} (h : PathBlock.build api config path = .error fault) :
      Meets api config (.path path) (.failure ⟨Output.pathName path, fault⟩)
  | builtSequence {name : String} {steps : List SequenceStep} {block : SequenceBlock}
      (h : SequenceBlock.build api config name steps = .ok block) :
      Meets api config (.sequence name steps) (.output ⟨name, .sequence block⟩)
  | faultySequence {name : String} {steps : List SequenceStep} {fault : Fault}
      (h : SequenceBlock.build api config name steps = .error fault) :
      Meets api config (.sequence name steps) (.failure ⟨name, fault⟩)

/-- The result of building a subject. -/
def result (api : Description) (config : RunConfig) : Subject → String × Built (Option Block)
  | .path p => Generation.pathResult api config p
  | .sequence name steps => Generation.sequenceResult api config (name, steps)

end Subject

namespace Subject

variable {api : Description} {config : RunConfig}

end Subject

namespace Generation

open Subject (Meets)

variable {api : Description} {config : RunConfig}

/-! ### Reading a run off its fates -/

end Generation

end ApiScaffold
