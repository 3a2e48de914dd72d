/-!
# Outlines

A reader of records skips the fields that it does not know. An outline says which parts of a document a
reader looks at, so that what it skips need not be resolved at all.
-/

namespace ApiScaffold

/-- **The parts of data that are read**: all of them, the named fields of a record, or the same parts of
every item or field. -/
inductive Outline where
  | all
  | record (fields : List (String × Outline))
  | list (item : Outline)
  | entries (value : Outline)
  deriving Inhabited, Repr

namespace Outline

/-- The outline of the items of a sequence. -/
def item : Outline → Outline
  | list o => o
  | _ => all

/-- The outline of a field, unless it is skipped. -/
def field? (o : Outline) (name : String) : Option Outline :=
  match o with
  | record fields => (fields.find? fun (other, _) => other = name).map (·.2)
  | entries o => some o
  | _ => some all

/-- The outline of a record whose fields have the given names. -/
def ofNames (names : List String) (outline : String → Outline) : Outline :=
  record (names.map fun name => (name, outline name))

end Outline

end ApiScaffold
