import ApiScaffold.Json.Printer
import ApiScaffold.Number.Decimal
import ApiScaffold.Template.Basic

/-!
# Templates of lookups

The templates that the program itself can fill: text with values. A value is a literal or a dotted path
into a JSON value, and may go through filters; beside those that are registered there is one that joins
the items of a list with a separator. There are no conditions, loops or macros. `LookupTemplate.fill?`
gives the text of a template for a value, unless a path leads nowhere or something is used that there is
not.
-/

namespace ApiScaffold

/-- **A term** of a template of lookups. -/
inductive LookupTerm where
  | literal (value : Json)
  | lookup (path : List String)
  /-- A call of a function; there are none. -/
  | call (name : String)
  deriving Repr, Inhabited

/-- **A use of a filter** with named arguments. -/
structure LookupFilter where
  name : String
  arguments : List (String × LookupTerm) := []
  deriving Repr, Inhabited

/-- **A piece** of a template of lookups. -/
inductive LookupPiece where
  | text (text : String)
  | value (term : LookupTerm) (filters : List LookupFilter)
  /-- A computation with operators; none is carried out. -/
  | computation
  deriving Repr, Inhabited

/-- **A template of lookups.** -/
abbrev LookupTemplate := List LookupPiece

namespace Json

/-- The position that a step of a path names: digits without a needless leading zero. -/
def position? (step : String) : Option Nat :=
  let cs := step.toList
  if cs.isEmpty || !cs.all Char.isDigit || (cs.length > 1 && cs.head? = some '0') then none
  else some (cs.foldl (fun n c => 10 * n + (c.toNat - '0'.toNat)) 0)

/-- **Value at a path** of field names and positions. -/
def at? (v : Json) : List String → Option Json
  | [] => some v
  | step :: rest =>
    match v with
    | .obj fields => (Entries.get? fields step).bind fun w => at? w rest
    | .arr items => (position? step).bind fun n => items[n]?.bind fun w => at? w rest
    | _ => none

mutual

/-- The text of a value inside a template. -/
def plainText : Json → String
  | .null => ""
  | .bool true => "true"
  | .bool false => "false"
  | .int n => toString n
  | .float x => DecimalStyle.plain.render x
  | .str s => s
  | .arr items => "[" ++ Text.join ", " (plainTexts items) ++ "]"
  | .obj _ => "[object]"

/-- The texts of items. -/
def plainTexts : List Json → List String
  | [] => []
  | v :: rest => plainText v :: plainTexts rest

end

end Json

namespace LookupTerm

/-- The name that stands for all values, as a text. -/
def wholeName : String := "__tera_context"

/-- The value of a term. -/
def value? (context : Json) : LookupTerm → Option Json
  | literal v => some v
  | lookup path => if path = [wholeName] then some (.str context.pretty) else context.at? path
  | call _ => none

end LookupTerm

namespace LookupFilter

/-- A text in which a backslash with a letter after it is a character. -/
def unescaped (letter escaped : Char) : List Char → List Char
  | c :: d :: rest =>
    if c = '\\' ∧ d = letter then escaped :: unescaped letter escaped rest
    else c :: unescaped letter escaped (d :: rest)
  | cs => cs

/-- A separator as it is written, with escapes for line feeds and tabs. -/
def separator (s : String) : String :=
  String.ofList (unescaped 't' '\t' (unescaped 'n' '\n' s.toList))

/-- **Joined items** of a list; without a separator they stand side by side. -/
def join? (arguments : Entries Json) (v : Json) : Option Json :=
  match v, arguments.get? "sep" with
  | .arr items, none => some (.str (Text.join "" (Json.plainTexts items)))
  | .arr items, some (.str s) => some (.str (Text.join (separator s) (Json.plainTexts items)))
  | _, _ => none

/-- The value that a filter makes of a value; `filters` are the registered ones. -/
def applied? (filters : Entries TemplateFilter) (context : Json) (filter : LookupFilter) (v : Json) :
    Option Json := do
  let arguments ← filter.arguments.mapM fun (name, term) => do return (name, ← term.value? context)
  match filters.get? filter.name with
  | some f => f v (Entries.ofPairs arguments)
  | none => if filter.name = "join" then join? (Entries.ofPairs arguments) v else none

end LookupFilter

namespace LookupPiece

/-- The text of a piece for a value. -/
def fill? (filters : Entries TemplateFilter) (context : Json) : LookupPiece → Option String
  | text t => some t
  | value term used => do
    let v ← used.foldlM (fun v filter => filter.applied? filters context v) (← term.value? context)
    return v.plainText
  | computation => none

end LookupPiece

namespace LookupTemplate

/-- **Filled template.** -/
def fill? (template : LookupTemplate) (filters : Entries TemplateFilter) (context : Json) :
    Option String :=
  (template.mapM (LookupPiece.fill? filters context)).map String.join

end LookupTemplate

end ApiScaffold
