import ApiScaffold.Entries
import ApiScaffold.Toml.Number

/-!
# Values of TOML text

A value is a leaf, an array or an inline table. Tables remember how they came to be, because that
decides what may be added to them: one that has a header or braces of its own is closed, one that only
stands in the header of another may still get its own, and one that only dotted keys name may get more
of them.
-/

namespace ApiScaffold.Toml

/-- **How a table came to be**: with a header of its own, in the header of another, or in a dotted
key. -/
inductive TableKind where
  | header
  | implied
  | dotted
  deriving DecidableEq, Repr

/-- **What a key stands for.** -/
inductive Item where
  | leaf (value : Leaf)
  | moment (text : String)
  | array (items : List Item)
  | inline (fields : List (String × Item))
  | table (kind : TableKind) (fields : List (String × Item))
  | tables (each : List (List (String × Item)))
  deriving Inhabited, Repr

/-- The fields of a table in order. -/
abbrev Fields := Entries Item

namespace Fields

/-- The fields without a key. -/
def erase (fields : Fields) (key : String) : Fields := fields.filter fun (k, _) => k ≠ key

/-- **A field under a dotted key.** Tables on the way are made or belong to dotted keys already, and
the last key is new. -/
def insertDotted? : List String → String → Item → Fields → Option Fields
  | [], key, value, fields =>
    if fields.hasKey key then none else some (fields.insert key value)
  | part :: parts, key, value, fields =>
    match fields.get? part with
    | none => do
      let inner ← insertDotted? parts key value []
      return fields.insert part (.table .dotted inner)
    | some (.table .dotted inner) => do
      let inner ← insertDotted? parts key value inner
      return fields.insert part (.table .dotted inner)
    | some (.table .implied inner) =>
      if parts.isEmpty then none
      else do
        let inner ← insertDotted? parts key value inner
        return fields.insert part (.table .implied inner)
    | some (.tables each) =>
      match parts, each.reverse with
      | _ :: _, last :: before => do
        let last ← insertDotted? parts key value last
        return fields.insert part (.tables (last :: before).reverse)
      | _, _ => none
    | some _ => none

end Fields

/-- The key of a pair and what stands before it in a dotted key. -/
def splitKey? (parts : List String) : Option (List String × String) :=
  match parts.reverse with
  | last :: before => some (before.reverse, last)
  | [] => none

/-- The number of arrays and inline tables that may stand inside one another. -/
def nestingLimit : Nat := 79

mutual

/-- **A value.** -/
def value? : Nat → Nat → List Char → Option (Item × List Char)
  | 0, _, _ => none
  | fuel + 1, levels, cs =>
    match cs with
    | [] => none
    | c :: rest =>
      if c = '"' ∨ c = '\'' then (string? cs).map fun (s, rest) => (.leaf (.text s), rest)
      else if c = '[' then
        match levels with
        | 0 => none
        | levels + 1 => (items? fuel levels rest).map fun (items, rest) => (.array items, rest)
      else if c = '{' then
        match levels with
        | 0 => none
        | levels + 1 => do
          let rest := skipBlanks rest
          if rest.head? = some '}' then return (.inline [], rest.drop 1)
          let (fields, rest) ← pairs? fuel levels [] rest
          return (.inline fields, rest)
      else if c = 't' then
        (after? ['t', 'r', 'u', 'e'] cs).map fun rest => (.leaf (.bool true), rest)
      else if c = 'f' then
        (after? ['f', 'a', 'l', 's', 'e'] cs).map fun rest => (.leaf (.bool false), rest)
      else if c = 'i' ∨ c = 'n' then (specialFloat? cs).map fun (l, rest) => (.leaf l, rest)
      else
        match dateTime? cs with
        | some (text, rest) => some (.moment text, rest)
        | none =>
          match float? cs with
          | some (l, rest) => some (.leaf l, rest)
          | none => (integer? cs).map fun (l, rest) => (.leaf l, rest)

/-- The items of an array up to its end; a comma may stand after the last one. -/
def items? : Nat → Nat → List Char → Option (List Item × List Char)
  | 0, _, _ => none
  | fuel + 1, levels, cs =>
    let cs := skipLines cs.length cs
    match cs with
    | ']' :: rest => some ([], rest)
    | _ => do
      let (v, rest) ← value? fuel levels cs
      match skipLines rest.length rest with
      | ',' :: rest =>
        let (items, rest) ← items? fuel levels rest
        return (v :: items, rest)
      | ']' :: rest => return ([v], rest)
      | _ => none

/-- The pairs of an inline table up to its end. -/
def pairs? : Nat → Nat → Fields → List Char → Option (Fields × List Char)
  | 0, _, _, _ => none
  | fuel + 1, levels, fields, cs => do
    let (parts, rest) ← key? cs
    let (path, key) ← splitKey? parts
    let rest ← after? ['='] rest
    let (v, rest) ← value? fuel levels (skipBlanks rest)
    let fields ← Fields.insertDotted? path key v fields
    match skipBlanks rest with
    | ',' :: rest => pairs? fuel levels fields rest
    | '}' :: rest => return (fields, rest)
    | _ => none

end

/-- **A key and its value**: the parts of the key, and the value. -/
def pair? (cs : List Char) : Option ((List String × Item) × List Char) := do
  let (parts, rest) ← key? cs
  let rest ← after? ['='] rest
  let (v, rest) ← value? (rest.length + 1) nestingLimit (skipBlanks rest)
  return ((parts, v), rest)

end ApiScaffold.Toml
