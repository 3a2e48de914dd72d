import ApiScaffold.Entries
import ApiScaffold.Number.Binary64

/-!
# JSON values

A JSON value keeps the order of its object keys, tells integers from other numbers, and holds only
finite numbers. The lookups at the end are those that schemas need: a field of an object, and the
text of a string.
-/

namespace ApiScaffold

/-- **A JSON value.** An integer is written without point and exponent; every other number is a
binary64 number. -/
inductive Json where
  | null
  | bool (value : Bool)
  | int (value : Int)
  | float (value : Binary64)
  | str (value : String)
  | arr (items : List Json)
  | obj (fields : List (String × Json))
  deriving Inhabited, BEq, Repr

namespace Json

/-- The field of an object; nothing for other values. -/
def field? : Json → String → Option Json
  | .obj fields, key => Entries.get? fields key
  | _, _ => none

/-- The text of a string. -/
def text? : Json → Option String
  | .str value => some value
  | _ => none

/-- The fields of an object. -/
def fields? : Json → Option (Entries Json)
  | .obj fields => some fields
  | _ => none

/-- Whether the value is `null`. -/
def isNull : Json → Bool
  | .null => true
  | _ => false

/-- An optional value, with `null` for none. -/
def ofOption {α : Type} (f : α → Json) : Option α → Json
  | none => .null
  | some a => f a

/-- The field of a value that is there. -/
def fieldIfAny {α : Type} (name : String) (f : α → Json) (value : Option α) :
    List (String × Json) :=
  match value with
  | some a => [(name, f a)]
  | none => []

/-- A list of strings. -/
def strings (items : List String) : Json := .arr (items.map .str)

/-- **Induction on values**: for an array the statement may be used of all its items, for an object of
the values of all its fields. -/
@[elab_as_elim]
theorem induct {motive : Json → Prop} (null : motive .null) (bool : ∀ b, motive (.bool b))
    (int : ∀ n, motive (.int n)) (float : ∀ x, motive (.float x)) (str : ∀ s, motive (.str s))
    (arr : ∀ items : List Json, (∀ v ∈ items, motive v) → motive (.arr items))
    (obj : ∀ fields : List (String × Json), (∀ f ∈ fields, motive f.2) → motive (.obj fields))
    (v : Json) : motive v := by
  refine @Json.rec motive (fun items => ∀ v ∈ items, motive v)
    (fun fields => ∀ f ∈ fields, motive f.2) (fun f => motive f.2)
    null bool int float str arr obj ?_ ?_ ?_ ?_ ?_ v
  · exact List.forall_mem_nil _
  · exact fun _ _ hv hrest => List.forall_mem_cons.mpr ⟨hv, hrest⟩
  · exact List.forall_mem_nil _
  · exact fun _ _ hf hrest => List.forall_mem_cons.mpr ⟨hf, hrest⟩
  · exact fun _ _ hv => hv

end Json

end ApiScaffold
