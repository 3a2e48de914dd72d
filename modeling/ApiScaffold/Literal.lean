import ApiScaffold.Json.Printer
import ApiScaffold.Text.Join

/-!
# JavaScript literals

`Literal.code` writes a JSON value as a JavaScript literal: strings in single quotes, objects with bare
keys where they are identifiers, and no field whose key starts with an underscore. `Literal.quote` is
the single-quoted form of a text, in which a backslash stands before every backslash and quote.
-/

namespace ApiScaffold.Literal

/-- One character inside single quotes. -/
def escapeChar (c : Char) : List Char :=
  if c = '\\' then ['\\', '\\'] else if c = '\'' then ['\\', '\''] else [c]

/-- The inside of a single-quoted literal. -/
def escaped (cs : List Char) : List Char := cs.flatMap escapeChar

/-- **Single-quoted literal** of a text. -/
def quote (s : String) : String := String.ofList ('\'' :: escaped s.toList ++ ['\''])

/-- Whether a character may start a bare key. -/
def startsKey (c : Char) : Bool := c.isAlpha || c = '_' || c = '$'

/-- Whether a character may go on in a bare key. -/
def continuesKey (c : Char) : Bool := c.isAlphanum || c = '_' || c = '$'

/-- Whether a key needs no quotes. -/
def isBareKey (key : String) : Bool :=
  match key.toList with
  | [] => false
  | c :: rest => startsKey c && rest.all continuesKey

/-- The text of a key. -/
def keyCode (key : String) : String := if isBareKey key then key else quote key

/-- Whether a field is left out. -/
def isHidden (key : String) : Bool := key.toList.head? = some '_'

mutual

/-- **Literal** of a JSON value. -/
def code : Json → String
  | .str s => quote s
  | .arr items =>
    match itemCodes items with
    | [] => "[]"
    | codes => "[ " ++ Text.join ", " codes ++ " ]"
  | .obj fields =>
    match fieldCodes fields with
    | [] => "\x7b\x7d"
    | codes => "\x7b " ++ Text.join ", " codes ++ " \x7d"
  | .null => "null"
  | .bool true => "true"
  | .bool false => "false"
  | .int n => toString n
  | .float x => Json.numberText x

/-- The literals of array items. -/
def itemCodes : List Json → List String
  | [] => []
  | v :: rest => code v :: itemCodes rest

/-- The fields of an object literal; hidden ones are left out. -/
def fieldCodes : List (String × Json) → List String
  | [] => []
  | (k, v) :: rest =>
    if isHidden k then fieldCodes rest else (keyCode k ++ ": " ++ code v) :: fieldCodes rest

end

end ApiScaffold.Literal
