import ApiScaffold.Json.Basic

/-!
# Structured data of any format

`Data` is what a JSON, YAML or TOML text says before anything is known about the type it should have.
A format shows in it only where it changes what a typed reader accepts:

- a leaf of JSON or TOML has one type, while a scalar of YAML is read as the type that is asked for,
  so it carries its text, how it was written, and the type it has where any is welcome;
- a sequence or map remembers its format, because formats differ in what else it may stand for;
- a part that cannot be read, but can be skipped, is an unreadable leaf.

`Data.toJson?` gives the JSON value of data, and `Data.ofJson` takes a JSON value back.
-/

namespace ApiScaffold

/-- **A leaf.** `nonFinite` is an infinity or a not-a-number, which JSON writes as `null`;
`unreadable` is a part of the text that can only be skipped. -/
inductive Leaf where
  | null
  | bool (value : Bool)
  | int (value : Int)
  | float (value : Binary64)
  | nonFinite
  | text (value : String)
  | unreadable
  deriving DecidableEq, Repr, Inhabited

/-- **How a scalar was written**: plainly, as a block that keeps its lines, or in another way. -/
inductive ScalarStyle where
  | plain
  | literal
  | other
  deriving DecidableEq, Repr, Inhabited

/-- **The type that a tag asks for**; `other` is any but the four that a spelling can have. -/
inductive TypeTag where
  | null
  | bool
  | int
  | float
  | other
  deriving DecidableEq, Repr, Inhabited

/-- **A scalar of YAML.** -/
structure Scalar where
  text : String
  style : ScalarStyle
  tag : Option TypeTag := none
  /-- The integer that the text spells, if it spells one. -/
  integer : Option Int := none
  /-- What the scalar is where any type is welcome. -/
  leaf : Leaf
  deriving Repr, Inhabited

/-- **The format** of a text. -/
inductive Format where
  | json
  | yaml
  | toml
  deriving DecidableEq, Repr, Inhabited

/-- **Structured data.** -/
inductive Data where
  /-- A leaf whose type its format fixes. -/
  | leaf (value : Leaf)
  /-- A scalar whose type depends on what is asked for. -/
  | scalar (scalar : Scalar)
  /-- Data under an application-defined label. -/
  | labelled (label : String) (content : Data)
  | seq (format : Format) (items : List Data)
  | map (format : Format) (fields : List (String × Data))
  /-- A map of YAML with a key whose spelling suggests another type than text. -/
  | looseMap (fields : List (String × Data))
  deriving Inhabited, Repr

namespace Leaf

/-- The JSON value of a leaf that can be read. -/
def toJson? : Leaf → Option Json
  | .null => some .null
  | .bool b => some (.bool b)
  | .int n => some (.int n)
  | .float x => some (.float x)
  | .nonFinite => some .null
  | .text s => some (.str s)
  | .unreadable => none

end Leaf

namespace Data

/-- A part that cannot be read. -/
def unreadable : Data := .leaf .unreadable

/-- **Induction on data**: for a sequence the statement may be used of all its items, for a map of the data
of all its fields. -/
@[elab_as_elim]
theorem induct {motive : Data → Prop} (leaf : ∀ l, motive (.leaf l))
    (scalar : ∀ s, motive (.scalar s)) (labelled : ∀ label d, motive d → motive (.labelled label d))
    (seq : ∀ format (items : List Data), (∀ d ∈ items, motive d) → motive (.seq format items))
    (map : ∀ format (fields : List (String × Data)), (∀ f ∈ fields, motive f.2) →
      motive (.map format fields))
    (looseMap : ∀ fields : List (String × Data), (∀ f ∈ fields, motive f.2) →
      motive (.looseMap fields))
    (d : Data) : motive d := by
  refine @Data.rec motive (fun items => ∀ d ∈ items, motive d)
    (fun fields => ∀ f ∈ fields, motive f.2) (fun f => motive f.2)
    leaf scalar labelled seq map looseMap ?_ ?_ ?_ ?_ ?_ d
  · exact List.forall_mem_nil _
  · exact fun _ _ hd hrest => List.forall_mem_cons.mpr ⟨hd, hrest⟩
  · exact List.forall_mem_nil _
  · exact fun _ _ hf hrest => List.forall_mem_cons.mpr ⟨hf, hrest⟩
  · exact fun _ _ hd => hd

mutual

/-- **JSON value** of data: scalars take the type their spelling suggests, and a repeated key keeps
its first place and its last value. -/
def toJson? : Data → Option Json
  | .leaf l => l.toJson?
  | .scalar s => s.leaf.toJson?
  | .labelled _ _ => none
  | .seq _ items => (toJsonItems? items).map .arr
  | .map _ fields => (toJsonFields? fields).map fun fs => .obj (Entries.ofPairs fs)
  | .looseMap fields => (toJsonFields? fields).map fun fs => .obj (Entries.ofPairs fs)

/-- The JSON values of items. -/
def toJsonItems? : List Data → Option (List Json)
  | [] => some []
  | d :: rest =>
    match toJson? d, toJsonItems? rest with
    | some v, some vs => some (v :: vs)
    | _, _ => none

/-- The JSON values of fields, repeated keys included. -/
def toJsonFields? : List (String × Data) → Option (List (String × Json))
  | [] => some []
  | (k, d) :: rest =>
    match toJson? d, toJsonFields? rest with
    | some v, some vs => some ((k, v) :: vs)
    | _, _ => none

end

mutual

/-- Whether every map inside the data has only keys that are texts. -/
def hasTextKeys : Data → Bool
  | .leaf _ => true
  | .scalar _ => true
  | .labelled _ d => hasTextKeys d
  | .seq _ items => haveTextKeys items
  | .map _ fields => fieldsHaveTextKeys fields
  | .looseMap _ => false

/-- The same for every item. -/
def haveTextKeys : List Data → Bool
  | [] => true
  | d :: rest => hasTextKeys d && haveTextKeys rest

/-- The same for every field. -/
def fieldsHaveTextKeys : List (String × Data) → Bool
  | [] => true
  | (_, d) :: rest => hasTextKeys d && fieldsHaveTextKeys rest

end

mutual

/-- **Data of a JSON value.** -/
def ofJson : Json → Data
  | .null => .leaf .null
  | .bool b => .leaf (.bool b)
  | .int n => .leaf (.int n)
  | .float x => .leaf (.float x)
  | .str s => .leaf (.text s)
  | .arr items => .seq .json (ofJsonItems items)
  | .obj fields => .map .json (ofJsonFields fields)

/-- Data of array items. -/
def ofJsonItems : List Json → List Data
  | [] => []
  | v :: rest => ofJson v :: ofJsonItems rest

/-- Data of object fields. -/
def ofJsonFields : List (String × Json) → List (String × Data)
  | [] => []
  | (k, v) :: rest => (k, ofJson v) :: ofJsonFields rest

end

end Data

end ApiScaffold
