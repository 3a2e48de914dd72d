import ApiScaffold.Json.Basic
import ApiScaffold.Number.Decimal

/-!
# JSON text

`Json.compact` writes a value on one line without spaces, `Json.pretty` one item to a line with two
spaces of indentation for each level. Both write strings with `Json.quoted`, which escapes the quote,
the backslash and the control characters and nothing else, so a line break never stands inside a
written string.
-/

namespace ApiScaffold.Json

/-- A hexadecimal digit in lower case. -/
def hexDigit (n : Nat) : Char := Nat.digitChar n

/-- **One character of a string literal**: the short escapes where JSON has them, a four-digit
escape for the other control characters, and the character itself otherwise. -/
def escapeChar (c : Char) : List Char :=
  if c = '"' then ['\\', '"']
  else if c = '\\' then ['\\', '\\']
  else if c = '\n' then ['\\', 'n']
  else if c = '\r' then ['\\', 'r']
  else if c = '\t' then ['\\', 't']
  else if c = '\x08' then ['\\', 'b']
  else if c = '\x0c' then ['\\', 'f']
  else if c.toNat < 32 then
    ['\\', 'u', '0', '0', hexDigit (c.toNat / 16), hexDigit (c.toNat % 16)]
  else [c]

/-- A string literal. -/
def quoted (s : String) : String :=
  String.ofList ('"' :: s.toList.flatMap escapeChar ++ ['"'])

/-- The text of a number. -/
def numberText (x : Binary64) : String := DecimalStyle.json.render x

mutual

/-- **Compact text** of a value. -/
def compact : Json → String
  | .null => "null"
  | .bool true => "true"
  | .bool false => "false"
  | .int n => toString n
  | .float x => numberText x
  | .str s => quoted s
  | .arr items => "[" ++ compactItems items ++ "]"
  | .obj fields => "\x7b" ++ compactFields fields ++ "\x7d"

/-- Items joined by commas. -/
def compactItems : List Json → String
  | [] => ""
  | [v] => compact v
  | v :: w :: rest => compact v ++ "," ++ compactItems (w :: rest)

/-- Fields joined by commas. -/
def compactFields : List (String × Json) → String
  | [] => ""
  | [(k, v)] => quoted k ++ ":" ++ compact v
  | (k, v) :: next :: rest => quoted k ++ ":" ++ compact v ++ "," ++ compactFields (next :: rest)

end

/-- The start of a line at a level of nesting. -/
def newline (level : Nat) : String := "\n" ++ String.ofList (List.replicate (2 * level) ' ')

mutual

/-- **Indented text** of a value at a level of nesting. Empty arrays and objects stay on one
line. -/
def prettyAt (level : Nat) : Json → String
  | .null => "null"
  | .bool true => "true"
  | .bool false => "false"
  | .int n => toString n
  | .float x => numberText x
  | .str s => quoted s
  | .arr [] => "[]"
  | .arr (v :: rest) =>
    "[" ++ prettyItems (level + 1) (v :: rest) ++ newline level ++ "]"
  | .obj [] => "\x7b\x7d"
  | .obj (field :: rest) =>
    "\x7b" ++ prettyFields (level + 1) (field :: rest) ++ newline level ++ "\x7d"

/-- Items, each on a line of its own. -/
def prettyItems (level : Nat) : List Json → String
  | [] => ""
  | [v] => newline level ++ prettyAt level v
  | v :: w :: rest => newline level ++ prettyAt level v ++ "," ++ prettyItems level (w :: rest)

/-- Fields, each on a line of its own. -/
def prettyFields (level : Nat) : List (String × Json) → String
  | [] => ""
  | [(k, v)] => newline level ++ quoted k ++ ": " ++ prettyAt level v
  | (k, v) :: next :: rest =>
    newline level ++ quoted k ++ ": " ++ prettyAt level v ++ "," ++
      prettyFields level (next :: rest)

end

/-- Indented text of a value. -/
def pretty (v : Json) : String := prettyAt 0 v

end ApiScaffold.Json
