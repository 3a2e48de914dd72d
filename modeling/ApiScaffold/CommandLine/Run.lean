import ApiScaffold.CommandLine.Generate
import ApiScaffold.LookupTemplate.Engine

/-!
# Running commands

`Command.run` carries a command out with the file operations of any monad and with the template engine of
the program.
-/

namespace ApiScaffold

variable {m : Type → Type} [Monad m] [Files m]

namespace InitCommand

/-- **Writes a run configuration** to start from, where nothing stands yet. -/
def run (command : InitCommand) : Ran m Unit := do
  if ← (Files.isThere command.path : m Bool) then throw (.present command.path)
  else
    Ran.check (.writing command.path)
      (RunConfig.save { testModule := command.testModule } command.path)

end InitCommand

namespace Command

/-- **Carries a command out.** -/
def run : Command → Ran m Unit
  | generate command => command.run
  | init command => command.run

end Command

/-- The exit status of arguments that ask for nothing that there is. -/
def misuseStatus : UInt32 := 2

end ApiScaffold
