/-!
# Arguments

The arguments of a command are read from left to right. `Argument.scan` tells options with values from
positional values, and stops where help is asked for or nothing can be made of an argument; `collect`
then sets the fields of a draft one after the other. So of two things that stop the reading, the first
one counts.
-/

namespace ApiScaffold

/-- **An argument** of a command. -/
inductive Argument where
  | option (name value : String)
  | positional (value : String)
  | help
  | misuse
  deriving DecidableEq, Repr

/-- **What arguments ask for**: something, or help. -/
inductive Asked (α : Type) where
  | help
  | given (value : α)
  deriving Repr

namespace Argument

/-- What follows the two dashes of a long option. -/
def long? (text : String) : Option (List Char) :=
  match text.toList with
  | '-' :: '-' :: rest => some rest
  | _ => none

/-- What follows the dash of short options. A dash alone is a value. -/
def short? (text : String) : Option (List Char) :=
  match text.toList with
  | '-' :: '-' :: _ => none
  | '-' :: c :: rest => some (c :: rest)
  | _ => none

/-- Whether a text looks like an option, and so is no value of the option before it. -/
def isDashed (text : String) : Bool := (long? text).isSome || (short? text).isSome

/-- The value after the first equals sign, and the name before it. -/
def nameAndValue (cs : List Char) : String × Option String :=
  let name := String.ofList (cs.takeWhile (· ≠ '='))
  match cs.dropWhile (· ≠ '=') with
  | _ :: value => (name, some (String.ofList value))
  | [] => (name, none)

/-- Whether a short option asks for help. -/
def asksForHelp (cs : List Char) : Bool := cs.head? = some 'h'

/-- **Arguments of a command** whose options all take a value and have the given names. After two
dashes alone, everything is a value. -/
def scan (names : List String) : List String → List Argument
  | [] => []
  | text :: rest =>
    match long? text, short? text with
    | some [], _ => rest.map .positional
    | some cs, _ =>
      match nameAndValue cs with
      | (name, some value) =>
        if names.contains name then .option name value :: scan names rest else [.misuse]
      | (name, none) =>
        if names.contains name then
          match rest with
          | value :: rest =>
            if isDashed value then [.misuse] else .option name value :: scan names rest
          | [] => [.misuse]
        else if name = "help" then [.help]
        else [.misuse]
    | none, some cs => if asksForHelp cs then [.help] else [.misuse]
    | none, none => .positional text :: scan names rest

/-- **Collects arguments** into a draft, up to a request for help. -/
def collect {σ : Type} (set : σ → Argument → Option σ) : σ → List Argument → Option (Asked σ)
  | draft, [] => some (.given draft)
  | _, .help :: _ => some .help
  | draft, a :: rest => do collect set (← set draft a) rest

/-- The value of a field that may be set once. -/
def once {α : Type} (field : Option α) (value : Option α) : Option (Option α) :=
  if field.isSome then none else value.map some

/-- The value of a path, which may not be empty. -/
def path? (value : String) : Option String := if value.isEmpty then none else some value

/-- The value of a count: digits, perhaps after a plus sign, below the limit of 64 bits. -/
def count? (value : String) : Option UInt64 :=
  let digits :=
    match value.toList with
    | '+' :: rest => rest
    | cs => cs
  if digits.isEmpty || !digits.all Char.isDigit then none
  else
    let n := digits.foldl (fun n c => 10 * n + (c.toNat - '0'.toNat)) 0
    if n < UInt64.size then some (UInt64.ofNat n) else none

end Argument

end ApiScaffold
