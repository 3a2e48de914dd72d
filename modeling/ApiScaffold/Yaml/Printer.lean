import ApiScaffold.Number.Decimal
import ApiScaffold.Yaml.Writing

/-!
# YAML text of JSON values

`Yaml.document` writes a value as a YAML document in block form. Each level is two columns deep, but
the items of a sequence stand right below the key of a map that holds it, and a collection inside an
item starts on the line of its dash. Empty collections are written in brackets.
-/

namespace ApiScaffold.Yaml

/-- The columns of one level. -/
def levelWidth : Nat := 2

/-- The bytes that a key may have to stand before its colon on one line. -/
def simpleKeyLimit : Nat := 128

/-- Whether a key stands before its colon on one line. -/
def isSimpleKey (key : String) : Bool :=
  key.utf8ByteSize ≤ simpleKeyLimit && !key.toList.any isBreak

/-- The spaces before a line. -/
def margin (indent : Nat) : String := String.ofList (spaces indent)

/-- A text with the line feed that ends its line, unless it ended with a break. -/
def finished (text : String) : String :=
  if text.toList.getLast?.any isBreak then text else text ++ "\n"

/-- The text of a scalar after an indicator, to the end of its line. -/
def scalarLine (text : String) : String := finished (" " ++ text)

/-- A key and its colon; a key that cannot stand on one line with it gets a line of its own. -/
def keyText (indent : Nat) (key : String) : String :=
  if isSimpleKey key then scalarText (indent + levelWidth) key ++ ":"
  else "?" ++ scalarLine (scalarText (indent + levelWidth) key) ++ margin indent ++ ":"

mutual

/-- **Text of a value** after an indicator of a collection at `indent`. A collection starts on the same
line if it is `compact`, and otherwise on the next one, as the value of a key does. -/
def nodeText (compact : Bool) (indent : Nat) : Json → String
  | .null => scalarLine "null"
  | .bool true => scalarLine "true"
  | .bool false => scalarLine "false"
  | .int n => scalarLine (toString n)
  | .float x => scalarLine (DecimalStyle.yaml.render x)
  | .str s => scalarLine (scalarText (indent + levelWidth) s)
  | .arr [] => scalarLine "[]"
  | .obj [] => scalarLine "\x7b\x7d"
  | .arr (v :: rest) =>
    if compact then " " ++ itemsText (indent + levelWidth) (v :: rest)
    else "\n" ++ margin indent ++ itemsText indent (v :: rest)
  | .obj (field :: rest) =>
    (if compact then " " else "\n" ++ margin (indent + levelWidth)) ++
      fieldsText (indent + levelWidth) (field :: rest)

/-- The items of a sequence at `indent`, without the spaces before the first one. -/
def itemsText (indent : Nat) : List Json → String
  | [] => ""
  | [v] => "-" ++ nodeText true indent v
  | v :: w :: rest => "-" ++ nodeText true indent v ++ margin indent ++ itemsText indent (w :: rest)

/-- The fields of a map at `indent`, without the spaces before the first one. -/
def fieldsText (indent : Nat) : List (String × Json) → String
  | [] => ""
  | [(k, v)] => keyText indent k ++ nodeText (!isSimpleKey k) indent v
  | (k, v) :: next :: rest =>
    keyText indent k ++ nodeText (!isSimpleKey k) indent v ++ margin indent ++
      fieldsText indent (next :: rest)

end

/-- **Document** of a value. -/
def document : Json → String
  | .arr (v :: rest) => itemsText 0 (v :: rest)
  | .obj (field :: rest) => fieldsText 0 (field :: rest)
  | v => String.ofList ((nodeText true 0 v).toList.drop 1)

end ApiScaffold.Yaml
