import ApiScaffold.CommandLine.Command
import ApiScaffold.Config.File
import ApiScaffold.Description.File
import ApiScaffold.Generation
import ApiScaffold.Renderer.Directory

/-!
# Generating tests

`GenerateCommand.run` carries the command out with the file operations of any monad and any template
engine. It stops at the first thing that fails, and what it wrote before stays. Paths and sequences that
could not be built are counted at the end, after everything else is written.
-/

namespace ApiScaffold

/-- **Why a command fails.** -/
inductive CommandFault where
  | configuration (path : String)
  | description (location : String)
  | templates
  | directory (path : String)
  | rendering (name : String)
  | writing (path : String)
  | incomplete (failures outputs : Nat)
  | present (path : String)
  deriving DecidableEq, Repr

namespace CommandFault

/-- **Text of a fault.** -/
def message : CommandFault → String
  | configuration path => "Failed to load run configuration " ++ path
  | description location => "Failed to load Swagger description " ++ location
  | templates => "Failed to initialize templates"
  | directory path => "Failed to create output directory " ++ path
  | rendering name => "Failed to render " ++ name
  | writing path => "Failed to write " ++ path
  | incomplete failures outputs =>
    toString failures ++ " of " ++ toString (failures + outputs) ++
      " outputs could not be generated"
  | present path => path ++ " already exists"

end CommandFault

/-- **Exit status** of a run. -/
def exitStatus : Except CommandFault Unit → UInt32
  | .ok _ => 0
  | .error _ => 1

/-- The result of running a command. -/
abbrev Ran (m : Type → Type) := ExceptT CommandFault m

variable {m : Type → Type} [Monad m] [Files m]

namespace Ran

/-- What was loaded, or the fault of what could not be. -/
def ofLoad {α ε : Type} (fault : CommandFault) (load : m (Except ε α)) : Ran m α := do
  match ← load with
  | .ok a => return a
  | .error _ => throw fault

/-- Goes on only if an operation succeeds. -/
def check (fault : CommandFault) (operation : m Bool) : Ran m Unit := do
  if ← operation then return () else throw fault

end Ran

namespace GenerateCommand

/-- The run configuration of the file, if there is one. -/
def loadConfig (command : GenerateCommand) : Ran m RunConfig :=
  match command.config with
  | none => return {}
  | some path => Ran.ofLoad (.configuration path) (RunConfig.load path)

/-- The renderer of a run configuration: with the built-in templates, or with those of a directory. -/
def loadRenderer [TemplateEngine] (command : GenerateCommand) (config : RunConfig) :
    Ran m Renderer :=
  match command.templateDir with
  | none =>
    Ran.ofLoad .templates
      (return Renderer.load TemplateName.source config.testModule config.assertionFormat)
  | some directory =>
    Ran.ofLoad .templates
      (Renderer.ofDirectory directory config.testModule config.assertionFormat)

/-- Makes the output directory, unless something stands there. -/
def makeOutputDir (path : String) : Ran m Unit := do
  if ← (Files.isThere path : m Bool) then return ()
  else Ran.check (.directory path) (Files.makeDirectories path)

/-- Renders and writes an output. -/
def writeOutput (renderer : Renderer) (directory : String) (output : Output) : Ran m Unit := do
  match renderer.render output.block with
  | .error _ => throw (.rendering output.name)
  | .ok text =>
    let path := FilePath.join directory output.fileName
    Ran.check (.writing path) (Files.write path text)

/-- **Generates tests.** -/
def run [TemplateEngine] (command : GenerateCommand) : Ran m Unit := do
  let config := command.configure (← command.loadConfig)
  let api ← Ran.ofLoad (.description command.schemaPath) (Description.load command.schemaPath)
  let renderer ← command.loadRenderer config
  let generation := Generation.generate api config
  makeOutputDir command.outputDir
  generation.outputs.forM (writeOutput renderer command.outputDir)
  if generation.isComplete then return ()
  else throw (.incomplete generation.failures.length generation.outputs.length)

end GenerateCommand

end ApiScaffold
