import ApiScaffold.Data.Basic
import ApiScaffold.Json.Tree

/-!
# Reading JSON text

`Json.readData?` reads a text as data and `Json.read?` as a value. At most 127 arrays and objects may
stand inside one another in the part that is read; what lies deeper is unreadable, and so is an object
with an unreadable key.
-/

namespace ApiScaffold.Json

/-- The number of arrays and objects that may stand inside one another. -/
def nestingLimit : Nat := 127

/-- The leaf of a number. -/
def numberLeaf : Option NumberValue → Leaf
  | some (.int n) => .int n
  | some (.float x) => .float x
  | none => .unreadable

/-- The leaf of a string. -/
def stringLeaf : Option String → Leaf
  | some s => .text s
  | none => .unreadable

/-- The fields of an object, if every key can be read. -/
def readableFields? : List (Option String × Data) → Option (List (String × Data))
  | [] => some []
  | (some k, d) :: rest => (readableFields? rest).map ((k, d) :: ·)
  | (none, _) :: _ => none

mutual

/-- **Data of a tree**, with the number of levels that may still be opened. -/
def Tree.toData (levels : Nat) : Tree → Data
  | .null => .leaf .null
  | .bool b => .leaf (.bool b)
  | .number n => .leaf (numberLeaf n)
  | .string s => .leaf (stringLeaf s)
  | .array items =>
    match levels with
    | 0 => .unreadable
    | levels + 1 => .seq .json (Tree.toDataItems levels items)
  | .object fields =>
    match levels with
    | 0 => .unreadable
    | levels + 1 =>
      match readableFields? (Tree.toDataFields levels fields) with
      | some fields => .map .json fields
      | none => .unreadable

/-- Data of array items. -/
def Tree.toDataItems (levels : Nat) : List Tree → List Data
  | [] => []
  | t :: rest => t.toData levels :: Tree.toDataItems levels rest

/-- Data of object fields. -/
def Tree.toDataFields (levels : Nat) :
    List (Option String × Tree) → List (Option String × Data)
  | [] => []
  | (k, t) :: rest => (k, t.toData levels) :: Tree.toDataFields levels rest

end

/-- **Data of a JSON text.** -/
def readData? (text : String) : Option Data := (Tree.read? text).map (Tree.toData nestingLimit)

/-- **Value of a JSON text.** -/
def read? (text : String) : Option Json := (readData? text).bind Data.toJson?

end ApiScaffold.Json
