import ApiScaffold.Build.Path
import ApiScaffold.Build.Sequence
import ApiScaffold.FileName

/-!
# Generation

A run builds the selected paths, then the sequences, and last the environment file of a description
that declares security schemes. What cannot be built is a failure of its own and keeps nothing else
from being built.
-/

namespace ApiScaffold

/-- **A finished block** under its name. -/
structure Output where
  name : String
  block : Block
  deriving BEq, Repr, Inhabited

/-- A path or sequence that could not be built. -/
structure Failure where
  name : String
  fault : Fault
  deriving DecidableEq, Repr

/-- **What a run gives.** -/
structure Generation where
  outputs : List Output := []
  failures : List Failure := []

namespace Output

/-- The name of the root path. -/
def rootName : String := "base-path"

/-- The name of the environment file. -/
def environmentName : String := ".env"

/-- **Name of a path**: without its first slash, and with dashes for the others. -/
def pathName (path : String) : String :=
  if path = "/" then rootName
  else
    let cs :=
      match path.toList with
      | '/' :: rest => rest
      | cs => cs
    String.ofList (cs.map fun c => if c = '/' then '-' else c)

/-- **File of an output.** -/
def fileName (output : Output) : String :=
  match output.block with
  | .path _ => FileName.sanitize (output.name ++ "-test.js")
  | .sequence _ => FileName.sanitize (output.name ++ "-sequence-test.js")
  | .environment _ => environmentName

end Output

namespace Generation

/-- Whether everything could be built. -/
def isComplete (g : Generation) : Bool := g.failures.isEmpty

/-- The outputs, or the fault of the first failure. -/
def result (g : Generation) : Built (List Output) :=
  match g.failures with
  | [] => .ok g.outputs
  | failure :: _ => .error failure.fault

/-- The generation with what building a name gave. -/
def push (g : Generation) (name : String) : Built (Option Block) → Generation
  | .ok (some block) => { g with outputs := g.outputs ++ [⟨name, block⟩] }
  | .ok none => g
  | .error fault => { g with failures := g.failures ++ [⟨name, fault⟩] }

/-- **Paths to build**: the selected ones, or all of the description. -/
def targets (api : Description) (config : RunConfig) : List String :=
  if config.pathNames.isEmpty then api.paths.names else config.pathNames

/-- The generation with a path. -/
def pushPath (api : Description) (config : RunConfig) (g : Generation) (path : String) :
    Generation :=
  g.push (Output.pathName path) ((PathBlock.build api config path).map (·.map .path))

/-- The generation with a sequence. -/
def pushSequence (api : Description) (config : RunConfig) (g : Generation)
    (sequence : String × List SequenceStep) : Generation :=
  g.push sequence.1
    ((SequenceBlock.build api config sequence.1 sequence.2).map fun b => some (.sequence b))

/-- The generation with the environment file, if there is a scheme to name in it. -/
def pushEnvironment (api : Description) (g : Generation) : Generation :=
  if api.securityDefinitions.isEmpty then g
  else g.push Output.environmentName (.ok (some (.environment ⟨api.environmentNames⟩)))

/-- **Everything that a configuration asks of a description.** -/
def generate (api : Description) (config : RunConfig) : Generation :=
  let paths := (targets api config).foldl (pushPath api config) {}
  let sequences := config.sequences.foldl (pushSequence api config) paths
  sequences.pushEnvironment api

end Generation

end ApiScaffold
