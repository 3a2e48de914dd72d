import ApiScaffold.Data.Basic

/-!
# Reading data as a type

A decoder takes data to a value of a type or to the cause of its refusal. The decoders here are those
of the basic shapes:

- `Data.text`, `Data.flag`, `Data.natural` and `Data.choice` read leaves;
- `Data.optional`, `Data.list` and `Data.entries` read what may be missing, repeated or named;
- `Data.record` reads the fields of a record in the order of the document, so that of two faults the
  first one is the answer.
-/

namespace ApiScaffold

/-- **Why data is refused.** Most refusals say no more than that the data does not fit; the other two
name what they met. -/
inductive DecodeError where
  | mismatch
  | unknownMethod (key : String)
  | notFieldNames
  deriving DecidableEq, Repr, Inhabited

namespace DecodeError

/-- The text of a refusal that says more than that the data does not fit. -/
def message? : DecodeError → Option String
  | .mismatch => none
  | .unknownMethod key => some ("Unknown operation key: " ++ key)
  | .notFieldNames => some "Expected field name or array of field names"

end DecodeError

/-- The result of a decoder. -/
abbrev Decoded (α : Type) := Except DecodeError α

namespace Data

variable {α σ : Type}

/-- The refusal of data that does not fit. -/
def mismatch : Decoded α := .error .mismatch

/-- Data without its labels. -/
def unlabelled : Data → Data
  | .labelled _ d => unlabelled d
  | d => d

/-- The fields of a map, repeated ones included. -/
def fields? (d : Data) : Option (List (String × Data)) :=
  match d.unlabelled with
  | .map _ fields => some fields
  | .looseMap fields => some fields
  | _ => none

/-- Whether the data is a scalar that was left empty. -/
def isBlank (d : Data) : Bool :=
  match d.unlabelled with
  | .scalar s => s.style = .plain && s.text.isEmpty
  | _ => false

/-- The scalar that can be read as a type by its spelling: a plain one as any type, and a literal block
as the type of its tag. -/
def spelled? (type : TypeTag) : Data → Option Scalar
  | .scalar s => if s.style = .plain || s.style = .literal && s.tag = some type then some s else none
  | d =>
    match d.unlabelled with
    | .scalar s => if s.style = .plain then some s else none
    | _ => none

/-- The spellings of `null` in a plain scalar. -/
def isNullText (s : String) : Bool := s = "null" || s = "Null" || s = "NULL" || s = "~"

/-- The truth value that a plain scalar spells. -/
def flagText? (s : String) : Option Bool :=
  if s = "true" ∨ s = "True" ∨ s = "TRUE" then some true
  else if s = "false" ∨ s = "False" ∨ s = "FALSE" then some false
  else none

/-- **Text.** Every scalar has a text, whatever its spelling suggests. -/
def text (d : Data) : Decoded String :=
  match d.unlabelled with
  | .leaf (.text s) => .ok s
  | .scalar s => .ok s.text
  | _ => mismatch

/-- **A truth value.** -/
def flag (d : Data) : Decoded Bool :=
  match d with
  | .leaf (.bool b) => .ok b
  | _ =>
    match (d.spelled? .bool).bind fun s => flagText? s.text with
    | some b => .ok b
    | none => mismatch

/-- The integer of a leaf. -/
def Leaf.int? : Leaf → Option Int
  | .int n => some n
  | _ => none

/-- **A natural number** below a limit. -/
def natural (limit : Nat) (d : Data) : Decoded Nat :=
  let n? :=
    match d with
    | .leaf l => Leaf.int? l
    | _ => (d.spelled? .int).bind fun s => if s.text.startsWith "-" then none else s.integer
  match n? with
  | some (.ofNat n) => if n < limit then .ok n else mismatch
  | _ => mismatch

/-- Whether a scalar says that a value is absent. A plain one does so by its spelling, unless its tag
asks for a type; if that is `null`, then no other spelling will do. -/
def Scalar.isAbsent (s : Scalar) : Decoded Bool :=
  if s.style ≠ .plain then .ok false
  else
    match s.tag with
    | none => .ok (s.text.isEmpty || isNullText s.text)
    | some .null => if isNullText s.text then .ok true else mismatch
    | some _ => .ok false

/-- Whether the data says that a value is absent. -/
def isAbsent : Data → Decoded Bool
  | .leaf .null => .ok true
  | .scalar s => Scalar.isAbsent s
  | _ => .ok false

/-- **A value or its absence.** -/
def optional (decode : Data → Decoded α) (d : Data) : Decoded (Option α) := do
  if ← d.isAbsent then return none else return some (← decode d)

/-- **A list**; a blank scalar is the empty one. -/
def list (decode : Data → Decoded α) (d : Data) : Decoded (List α) :=
  match d.unlabelled with
  | .seq _ items => items.mapM decode
  | d => if d.isBlank then .ok [] else mismatch

/-- Decodes named values one after the other. -/
def fieldsOf (decode : Data → Decoded α) : List (String × Data) → Entries α → Decoded (Entries α)
  | [], acc => .ok acc
  | (k, d) :: rest, acc => do
    let v ← decode d
    fieldsOf decode rest (acc.insert k v)

/-- **Named values** in order; a blank scalar has none. -/
def entries (decode : Data → Decoded α) (d : Data) : Decoded (Entries α) :=
  match d.fields? with
  | some fields => fieldsOf decode fields []
  | none => if d.isBlank then .ok [] else mismatch

/-- **Any JSON value.** -/
def json (d : Data) : Decoded Json :=
  match d.toJson? with
  | some v => .ok v
  | none => mismatch

/-- **Any JSON value** whose maps have only texts for keys. -/
def textKeyedJson (d : Data) : Decoded Json := if d.hasTextKeys then d.json else mismatch

/-- Whether a container stands for a choice without content: in JSON the content is `null`, in TOML
an empty array or table, and in YAML a choice is never a container. -/
def isChoiceContent : Format → Data → Bool
  | .json, .leaf .null => true
  | .toml, .seq _ [] => true
  | .toml, .map _ [] => true
  | _, _ => false

/-- **The name of a choice**: a text, a label, or a single name with no content. -/
def choice (d : Data) : Decoded String :=
  match d with
  | .leaf (.text s) => .ok s
  | .scalar s => .ok s.text
  | .labelled label (.scalar s) =>
    if s.style = .plain && (s.text.isEmpty || isNullText s.text) then .ok label else mismatch
  | .map format [(name, content)] =>
    if isChoiceContent format content then .ok name else mismatch
  | _ => mismatch

/-- Sets the fields of a record from named data. Unknown names are skipped, a known name may stand
only once. -/
def recordFields (names : List String) (set : String → Data → σ → Decoded σ) :
    List (String × Data) → List String → σ → Decoded (σ × List String)
  | [], seen, acc => .ok (acc, seen)
  | (k, d) :: rest, seen, acc =>
    if names.contains k then
      if seen.contains k then mismatch
      else do
        let acc ← set k d acc
        recordFields names set rest (k :: seen) acc
    else recordFields names set rest seen acc

/-- Sets the fields of a record from data given by position; whether more items than fields are
refused depends on the format. -/
def recordItems (strict : Bool) (set : String → Data → σ → Decoded σ) :
    List String → List Data → List String → σ → Decoded (σ × List String)
  | _, [], seen, acc => .ok (acc, seen)
  | [], _ :: _, seen, acc => if strict then mismatch else .ok (acc, seen)
  | name :: names, d :: rest, seen, acc => do
    let acc ← set name d acc
    recordItems strict set names rest (name :: seen) acc

/-- **A record**: starts from `init`, sets each field that is present in the order of the document,
and requires the fields of `required`. A JSON or TOML sequence gives the fields by position; then
those of `requiredByPosition` have to be there. -/
def record (names required requiredByPosition : List String) (init : σ)
    (set : String → Data → σ → Decoded σ) (d : Data) : Decoded σ := do
  let ((acc, seen), required) ←
    match d.fields?, d.unlabelled with
    | some fields, _ => (recordFields names set fields [] init).map (·, required)
    | none, .seq .yaml _ => mismatch
    | none, .seq format items =>
      (recordItems (format = .json) set names items [] init).map (·, requiredByPosition)
    | none, _ => if d.isBlank then .ok ((init, []), required) else mismatch
  if required.all seen.contains then .ok acc else mismatch

end Data

end ApiScaffold
