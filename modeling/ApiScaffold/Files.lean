import ApiScaffold.FilePath

/-!
# File operations

What the program does with files, as operations of any monad; what it gets from the web is one of them.
None of them throws: an operation that fails says so in its result, and whoever asked decides what that
means.
-/

namespace ApiScaffold

/-- **What stands at a path**; a device is neither a file nor a directory. -/
inductive FileKind where
  | file
  | directory
  | device
  deriving DecidableEq, Repr

/-- **File operations** of a monad. -/
class Files (m : Type → Type) where
  /-- What stands at a path, if anything does. -/
  kind? : String → m (Option FileKind)
  /-- The text of a file or device; nothing for one that is no text. -/
  read? : String → m (Option String)
  /-- The text that the web has at an address, if it answers with one. -/
  fetch? : String → m (Option String)
  /-- Makes a directory below one that is there, unless it is there already. -/
  makeDirectory : String → m Bool
  /-- Makes a file with a text, or replaces its text. -/
  write : String → String → m Bool

/-- **Why a file gives nothing.** -/
inductive LoadFault where
  /-- There is no file, or it is no text. -/
  | unreadable
  /-- The text does not say what it should. -/
  | malformed
  /-- The place is on the web, which does not answer with a text. -/
  | remote
  deriving DecidableEq, Repr

namespace Files

variable {m : Type → Type} [Monad m] [Files m] {α : Type}

/-- What a parser makes of a text, or the fault of a text that is missing. -/
def valueOf (parse? : String → Option α) (missing : LoadFault) :
    Option String → Except LoadFault α
  | none => .error missing
  | some text =>
    match parse? text with
    | some a => .ok a
    | none => .error .malformed

/-- **Value of a file**: its text, read by a parser. -/
def load (parse? : String → Option α) (path : String) : m (Except LoadFault α) :=
  return valueOf parse? .unreadable (← read? path)

/-- Makes directories one after the other, up to the first that cannot be made. -/
def makeEach : List String → m Bool
  | [] => return true
  | path :: rest => do if ← makeDirectory path then makeEach rest else return false

/-- **Makes a directory** and those above it; those made before one that cannot be made stay. -/
def makeDirectories (path : String) : m Bool :=
  if FilePath.isShort path then makeEach (FilePath.ancestors path ++ [path]) else return false

/-- Whether anything stands at a path. -/
def isThere (path : String) : m Bool := return (← kind? path).isSome

end Files

end ApiScaffold
