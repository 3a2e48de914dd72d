import ApiScaffold.Data.Decode
import ApiScaffold.Unicode.Lowercase

/-!
# HTTP methods

The seven methods that a path item may declare operations for, with their keys in a description and
their verbs in a message.
-/

namespace ApiScaffold

/-- **An HTTP method** of an operation. -/
inductive Method where
  | get
  | put
  | post
  | delete
  | options
  | head
  | patch
  deriving DecidableEq, Repr, Inhabited

namespace Method

/-- The methods in the order in which descriptions list them. -/
def all : List Method := [.get, .put, .post, .delete, .options, .head, .patch]

/-- **Operation key**: the lowercase name. -/
def key : Method → String
  | .get => "get"
  | .put => "put"
  | .post => "post"
  | .delete => "delete"
  | .options => "options"
  | .head => "head"
  | .patch => "patch"

/-- The uppercase name. -/
def verb : Method → String
  | .get => "GET"
  | .put => "PUT"
  | .post => "POST"
  | .delete => "DELETE"
  | .options => "OPTIONS"
  | .head => "HEAD"
  | .patch => "PATCH"

/-- **Method of a key**, in lowercase only. -/
def ofKey? (key : String) : Option Method := all.find? fun m => m.key = key

/-- A method in a run configuration: its key in any case. -/
def decode (d : Data) : Decoded Method := do
  let key := String.ofList (Unicode.lowercase (← d.text).toList)
  match ofKey? key with
  | some m => .ok m
  | none => .error (.unknownMethod key)

theorem ofKey?_key (m : Method) : ofKey? m.key = some m := by cases m <;> decide

/-- Methods have different keys. -/
theorem key_injective {m other : Method} (h : m.key = other.key) : m = other := by
  rw [← Option.some.injEq, ← ofKey?_key, ← ofKey?_key, h]

end Method

end ApiScaffold
