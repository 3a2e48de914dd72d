import ApiScaffold.CommandLine.Arguments
import ApiScaffold.Config.Basic

/-!
# Commands

The program has two commands: `generate` writes the tests of a description, and `init` writes a run
configuration to start from. `Invocation.ofArguments?` reads what the arguments ask for; it gives nothing
when they ask for nothing that there is.
-/

namespace ApiScaffold

/-- Where tests go that have no other place. -/
def defaultOutputDir : String := "test"

/-- Where a run configuration goes that has no other place. -/
def defaultConfigPath : String := "testgen.yaml"

/-- **What to generate.** Options that are given take precedence over the run configuration. -/
structure GenerateCommand where
  /-- The place of the description. -/
  schemaPath : String
  config : Option String := none
  outputDir : String := defaultOutputDir
  testModule : Option TestModule := none
  assertionFormat : Option AssertionStyle := none
  paths : List String := []
  maxLen : Option UInt64 := none
  templateDir : Option String := none
  deriving DecidableEq, Repr

/-- **Which run configuration to write.** -/
structure InitCommand where
  path : String := defaultConfigPath
  testModule : TestModule := .supertest
  deriving DecidableEq, Repr

/-- A command. -/
inductive Command where
  | generate (command : GenerateCommand)
  | init (command : InitCommand)
  deriving DecidableEq, Repr

/-- **An invocation of the program**: what its arguments ask for. -/
inductive Invocation where
  | help
  | version
  | run (command : Command)
  deriving DecidableEq, Repr

namespace GenerateCommand

/-- The options that were given so far. -/
structure Draft where
  schemaPath : Option String := none
  config : Option String := none
  outputDir : Option String := none
  testModule : Option TestModule := none
  assertionFormat : Option AssertionStyle := none
  paths : List String := []
  maxLen : Option UInt64 := none
  templateDir : Option String := none

/-- The names of the options. -/
def optionNames : List String :=
  ["schema-path", "config", "output-dir", "test-module", "assertion-format", "path", "max-len",
    "template-dir"]

/-- The draft with one more option. Only paths may be given more than once. -/
def Draft.set (d : Draft) (name value : String) : Option Draft := do
  match name with
  | "schema-path" => return { d with schemaPath := ← Argument.once d.schemaPath (some value) }
  | "config" => return { d with config := ← Argument.once d.config (Argument.path? value) }
  | "output-dir" => return { d with outputDir := ← Argument.once d.outputDir (Argument.path? value) }
  | "test-module" =>
    return { d with testModule := ← Argument.once d.testModule (TestModule.ofName? value) }
  | "assertion-format" =>
    return { d with
      assertionFormat := ← Argument.once d.assertionFormat (AssertionStyle.ofName? value) }
  | "path" => return { d with paths := d.paths ++ [value] }
  | "max-len" => return { d with maxLen := ← Argument.once d.maxLen (Argument.count? value) }
  | _ => return { d with templateDir := ← Argument.once d.templateDir (Argument.path? value) }

/-- The draft with one more argument; there are only options. -/
def Draft.take (d : Draft) : Argument → Option Draft
  | .option name value => d.set name value
  | _ => none

/-- The command of a draft, which has to name a description. -/
def Draft.finish? (d : Draft) : Option GenerateCommand :=
  d.schemaPath.map fun schemaPath =>
    { schemaPath
      config := d.config
      outputDir := d.outputDir.getD defaultOutputDir
      testModule := d.testModule
      assertionFormat := d.assertionFormat
      paths := d.paths
      maxLen := d.maxLen
      templateDir := d.templateDir }

/-- **The run configuration** of the command: that of its file, with its own options in place. -/
def configure (command : GenerateCommand) (config : RunConfig) : RunConfig :=
  { config with
    testModule := command.testModule.getD config.testModule
    assertionFormat := command.assertionFormat.getD config.assertionFormat
    pathNames := if command.paths.isEmpty then config.pathNames else command.paths
    maxLen := command.maxLen.orElse fun _ => config.maxLen }

end GenerateCommand

namespace InitCommand

/-- The arguments that were given so far. -/
structure Draft where
  path : Option String := none
  testModule : Option TestModule := none

/-- The draft with one more argument: the path, or the dialect. -/
def Draft.take (d : Draft) : Argument → Option Draft
  | .option _ value => do
    return { d with testModule := ← Argument.once d.testModule (TestModule.ofName? value) }
  | .positional value => do return { d with path := ← Argument.once d.path (Argument.path? value) }
  | _ => none

/-- The command of a draft. -/
def Draft.finish (d : Draft) : InitCommand :=
  { path := d.path.getD defaultConfigPath, testModule := d.testModule.getD .supertest }

end InitCommand

namespace Invocation

/-- The invocation of a `generate` with its arguments. -/
def ofGenerate? (arguments : List String) : Option Invocation :=
  match Argument.collect GenerateCommand.Draft.take {}
      (Argument.scan GenerateCommand.optionNames arguments) with
  | some .help => some .help
  | some (.given draft) => draft.finish?.map fun command => run (.generate command)
  | none => none

/-- The invocation of an `init` with its arguments. -/
def ofInit? (arguments : List String) : Option Invocation :=
  match Argument.collect InitCommand.Draft.take {} (Argument.scan ["test-module"] arguments) with
  | some .help => some .help
  | some (.given draft) => some (run (.init draft.finish))
  | none => none

/-- The names after which help can be asked for. -/
def topics : List String := ["generate", "init", "help"]

/-- The invocation of a `help` with its arguments: at most one name. -/
def ofHelp? (arguments : List String) : Option Invocation :=
  match arguments with
  | [] => some help
  | [topic] => if topics.contains topic then some help else none
  | _ => none

/-- The invocation of options that stand before any command. -/
def ofOptions? (text : String) : Option Invocation :=
  if text = "--help" then some help
  else if text = "--version" then some version
  else
    match Argument.short? text with
    | some ('h' :: _) => some help
    | some ('V' :: _) => some version
    | _ => none

/-- **What arguments ask for.** -/
def ofArguments? : List String → Option Invocation
  | [] => none
  | "generate" :: rest => ofGenerate? rest
  | "init" :: rest => ofInit? rest
  | "help" :: rest => ofHelp? rest
  | text :: _ => ofOptions? text

end Invocation

end ApiScaffold
