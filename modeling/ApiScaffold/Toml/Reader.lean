import ApiScaffold.Toml.Value

/-!
# Reading TOML text

A text is a list of pairs and headers. The pairs after a header belong to its table, which is put into
its place when the next header or the end comes. `Toml.readData?` reads a text as data.
-/

namespace ApiScaffold.Toml

/-- **State of reading**: the finished tables, and the current one with the path of its header. -/
structure Builder where
  root : Fields := []
  current : Fields := []
  path : List String := []
  /-- Whether the current table is an item of an array of tables. -/
  isItem : Bool := false

namespace Fields

/-- **Changes the table at a path of a header**; tables on the way are implied where they are
missing, and of an array of tables the last one is meant. -/
def update? : List String → (Fields → Option Fields) → Fields → Option Fields
  | [], change, fields => change fields
  | part :: parts, change, fields =>
    match fields.get? part with
    | none => do return fields.insert part (.table .implied (← update? parts change []))
    | some (.table kind inner) => do
      return fields.insert part (.table kind (← update? parts change inner))
    | some (.tables each) =>
      match each.reverse with
      | last :: before => do
        let last ← update? parts change last
        return fields.insert part (.tables (last :: before).reverse)
      | [] => none
    | some _ => none

/-- The table at a path of a header. -/
def at? : List String → Fields → Option Fields
  | [], fields => some fields
  | part :: parts, fields =>
    match fields.get? part with
    | none => some []
    | some (.table _ inner) => at? parts inner
    | some (.tables each) => each.getLast?.bind (at? parts)
    | some _ => none

end Fields

namespace Builder

/-- Puts the current table into its place. -/
def close? (b : Builder) : Option Builder :=
  match splitKey? b.path with
  | none => some { root := b.current }
  | some (path, key) => do
    let root ←
      Fields.update? path
        (fun fields =>
          if b.isItem then
            match fields.get? key with
            | some (.tables each) => some (fields.insert key (.tables (each ++ [b.current])))
            | _ => none
          else if fields.hasKey key then none
          else some (fields.insert key (.table .header b.current)))
        b.root
    return { root }

/-- **Header of a table**: new, or only implied so far; then it moves to the end of its parent. -/
def openTable? (b : Builder) (parts : List String) : Option Builder := do
  let b ← b.close?
  let (path, key) ← splitKey? parts
  let parent ← Fields.at? path b.root
  let current ←
    match parent.get? key with
    | none => some []
    | some (.table .implied inner) => some inner
    | some _ => none
  let root ← Fields.update? path (fun fields => some (fields.erase key)) b.root
  return { root, current, path := parts }

/-- **Header of an item** of an array of tables. -/
def openItem? (b : Builder) (parts : List String) : Option Builder := do
  let b ← b.close?
  let (path, key) ← splitKey? parts
  let root ←
    Fields.update? path
      (fun fields =>
        match fields.get? key with
        | none => some (fields.insert key (.tables []))
        | some (.tables _) => some fields
        | some _ => none)
      b.root
  return { root, path := parts, isItem := true }

/-- A pair of the current table. -/
def pair? (b : Builder) (parts : List String) (v : Item) : Option Builder := do
  let (path, key) ← splitKey? parts
  return { b with current := ← Fields.insertDotted? path key v b.current }

/-- **One line** with more than a comment, and the text after it. -/
def line? (b : Builder) (cs : List Char) : Option (Builder × List Char) := do
  let (b, rest) ←
    match cs with
    | '[' :: '[' :: rest => do
      let (parts, rest) ← key? rest
      let rest ← after? [']', ']'] rest
      pure (← b.openItem? parts, rest)
    | '[' :: rest => do
      let (parts, rest) ← key? rest
      let rest ← after? [']'] rest
      pure (← b.openTable? parts, rest)
    | _ => do
      let ((parts, v), rest) ← Toml.pair? cs
      pure (← b.pair? parts v, rest)
  return (b, ← finishLine? rest)

/-- All lines; every line takes at least one character. -/
def run? : Nat → Builder → List Char → Option Builder
  | 0, _, _ => none
  | fuel + 1, b, cs =>
    let cs := skipBlanks cs
    match cs with
    | [] => b.close?
    | _ =>
      match newline? cs with
      | some rest => run? fuel b rest
      | none =>
        if cs.head? = some '#' then do run? fuel b (← finishLine? cs)
        else do
          let (b, rest) ← b.line? cs
          run? fuel b rest

end Builder

/-- The field that holds a date or time. -/
def momentField : String := "$__toml_private_datetime"

mutual

/-- **Data of an item.** -/
def Item.toData : Item → Data
  | .leaf l => .leaf l
  | .moment text => .map .toml [(momentField, .leaf (.text text))]
  | .array items => .seq .toml (itemsData items)
  | .inline fields => .map .toml (fieldsData fields)
  | .table _ fields => .map .toml (fieldsData fields)
  | .tables each => .seq .toml (tablesData each)

/-- Data of the items of an array. -/
def itemsData : List Item → List Data
  | [] => []
  | i :: rest => i.toData :: itemsData rest

/-- Data of the fields of a table. -/
def fieldsData : List (String × Item) → List (String × Data)
  | [] => []
  | (k, i) :: rest => (k, i.toData) :: fieldsData rest

/-- Data of the tables of an array. -/
def tablesData : List (List (String × Item)) → List Data
  | [] => []
  | fields :: rest => .map .toml (fieldsData fields) :: tablesData rest

end

/-- **Data of a TOML text**, without a mark of byte order at its start. -/
def readData? (text : String) : Option Data := do
  let cs := match text.toList with
    | '\ufeff' :: rest => rest
    | cs => cs
  let b ← Builder.run? (cs.length + 2) {} cs
  return .map .toml (fieldsData b.root)

end ApiScaffold.Toml
