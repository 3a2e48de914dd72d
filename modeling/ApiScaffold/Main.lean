import ApiScaffold.CommandLine.Run
import ApiScaffold.CommandLine.Usage

/-!
# The program

File operations of the machine, and the exit status of a run: `0` when everything is written, `1` when
a command fails, and `2` when the arguments ask for nothing that there is.
-/

namespace ApiScaffold

/-- Whether an action ends without an error. -/
def succeeds (action : IO Unit) : IO Bool :=
  try
    action
    return true
  catch _ => return false

/-- What stands at a path of the machine. -/
def machineKind? (path : String) : IO (Option FileKind) :=
  try
    let place ← IO.FS.realPath path
    match (← place.metadata).type with
    | .dir => return some .directory
    | .file => return some .file
    | _ => return some .device
  catch _ => return none

/-- The text of a file of the machine. -/
def machineText? (path : String) : IO (Option String) :=
  try return some (← IO.FS.readFile path) catch _ => return none

/-- Makes a directory on the machine, unless it is there already. -/
def makeMachineDirectory (path : String) : IO Bool := do
  if ← succeeds (IO.FS.createDir path) then return true
  else return (← machineKind? path) = some .directory

instance : Files IO where
  kind? := machineKind?
  read? := machineText?
  -- the machine is not connected
  fetch? _ := return none
  makeDirectory := makeMachineDirectory
  write path text := succeeds (IO.FS.writeFile path text)

/-- Carries a command out, and says why if it fails. -/
def perform (command : Command) : IO UInt32 := do
  let result ← (command.run : Ran IO Unit).run
  match result with
  | .ok () => pure ()
  | .error fault => IO.eprintln ("Error: " ++ fault.message)
  return exitStatus result

end ApiScaffold

/-- **The program.** -/
def main (arguments : List String) : IO UInt32 := do
  match ApiScaffold.Invocation.ofArguments? arguments with
  | none =>
    IO.eprint ApiScaffold.Usage.text
    return ApiScaffold.misuseStatus
  | some .help =>
    IO.print ApiScaffold.Usage.text
    return 0
  | some .version =>
    IO.println ApiScaffold.Usage.version
    return 0
  | some (.run command) => ApiScaffold.perform command
