import ApiScaffold.Literal

/-!
# Expressions

What a generated test sends for a name is an expression: a value of the run configuration, a field of
an earlier step's response, or a mark that somebody has to fill in. `ResolvedPath.code` turns a path
whose placeholders are resolved into one JavaScript string expression.
-/

namespace ApiScaffold

/-- **How a value is obtained** in a generated test. -/
inductive Expression where
  /-- A value of the run configuration. -/
  | literal (value : Json)
  /-- A field of the response to an earlier step. -/
  | dependency (step field : String)
  /-- Nothing is known. -/
  | missing
  deriving Inhabited, BEq, Repr

namespace Expression

/-- The mark of a missing value. -/
def missingCode : String := "'DATA GOES HERE'"

/-- **JavaScript text** of an expression that stands alone. -/
def code : Expression → String
  | .literal v => Literal.code v
  | .dependency step field => "deps." ++ step ++ "." ++ field
  | .missing => missingCode

/-- Whether nothing is known. -/
def isMissing : Expression → Bool
  | .missing => true
  | _ => false

end Expression

/-- **A named value** of a request. -/
structure ResolvedValue where
  name : String
  expression : Expression
  deriving Inhabited, BEq, Repr

namespace ResolvedValue

/-- The JavaScript text of the value. -/
def code (v : ResolvedValue) : String := v.expression.code

end ResolvedValue

/-- **A piece of a path** whose placeholders are resolved. -/
inductive PathSegment where
  | text (text : String)
  | placeholder (name : String) (expression : Expression)
  deriving Inhabited, BEq, Repr

namespace PathSegment

/-- The text that a segment adds to a string literal, unless it is a dependency. -/
def literalText? : PathSegment → Option String
  | .text t => some t
  | .placeholder _ (.literal (.str s)) => some s
  | .placeholder _ (.literal v) => some v.compact
  | .placeholder name .missing => some ("\x7b" ++ name ++ " PARAM GOES HERE\x7d")
  | .placeholder _ (.dependency _ _) => none

/-- The name of a placeholder about which nothing is known. -/
def missingName? : PathSegment → Option String
  | .placeholder name .missing => some name
  | _ => none

/-- The text of an expression that cannot be part of a string literal. -/
def code : PathSegment → String
  | .text t => Literal.quote t
  | .placeholder _ e => e.code

end PathSegment

/-- **A path with resolved placeholders.** -/
structure ResolvedPath where
  segments : List PathSegment
  deriving Inhabited, BEq, Repr

namespace ResolvedPath

/-- The text as a part of the concatenation, unless it is empty. -/
def quotedIfAny (text : String) : List String := if text.isEmpty then [] else [Literal.quote text]

/-- The parts of the concatenation: `text` is the text since the last dependency. -/
def partsFrom (text : String) : List PathSegment → List String
  | [] => quotedIfAny text
  | s :: rest =>
    match s.literalText? with
    | some t => partsFrom (text ++ t) rest
    | none => quotedIfAny text ++ s.code :: partsFrom "" rest

/-- **Parts of the concatenation.** Dependencies stand alone, all text between two of them is one
literal, and a path without parts is the empty literal. -/
def parts (path : ResolvedPath) : List String :=
  match partsFrom "" path.segments with
  | [] => [Literal.quote ""]
  | ps => ps

/-- **JavaScript text** of the path. -/
def code (path : ResolvedPath) : String := Text.join " + " path.parts

/-- The names of the placeholders about which nothing is known. -/
def missing (path : ResolvedPath) : List String := path.segments.filterMap PathSegment.missingName?

end ResolvedPath

end ApiScaffold
