import ApiScaffold.Data.Basic
import ApiScaffold.Yaml.Scalar
import ApiScaffold.Yaml.Tag

/-!
# Tokens of YAML text

The scanner turns a text into tokens and makes its indentation explicit: blocks get tokens where they
start and end. A key without a mark of its own is known only when its colon is met, so the scanner
remembers, for each open bracket, where the last key could have started, and puts the token of the key
there when it turns out to be one.
-/

namespace ApiScaffold.Yaml

/-- **A token.** -/
inductive Token where
  | directive (directive : Directive)
  | documentStart
  | documentEnd
  | blockSequenceStart
  | blockMappingStart
  | blockEnd
  | flowSequenceStart
  | flowSequenceEnd
  | flowMappingStart
  | flowMappingEnd
  | blockEntry
  | flowEntry
  | key
  | value
  | alias (name : String)
  | anchor (name : String)
  | tag (handle : String) (suffix : List UInt8)
  | scalar (text : String) (style : ScalarStyle)
  deriving DecidableEq, Repr

/-- **Where a key could have started**: before the token of a number, at a position. A key that has to
be one must not be given up. -/
structure KeyMark where
  required : Bool
  token : Nat
  line : Nat
  column : Nat
  index : Nat
  deriving Repr

/-- **State of the scanner.** The tokens are reversed; `keys` has a place for each open bracket, the
innermost first, and one for the block around them. -/
structure Scanner where
  cursor : Cursor
  tokens : List Token := []
  count : Nat := 0
  /-- The column of the innermost block; `-1` outside all blocks. -/
  indent : Int := -1
  outer : List Int := []
  keys : List (Option KeyMark) := [none]
  /-- Whether a key may start here. -/
  keyAllowed : Bool := true

namespace Scanner

/-- Whether some bracket is open. -/
def inFlow (s : Scanner) : Bool := s.keys.length > 1

/-- Adds a token. -/
def push (s : Scanner) (t : Token) : Scanner :=
  { s with tokens := t :: s.tokens, count := s.count + 1 }

/-- Adds a token before the one of a number. -/
def insertAt (s : Scanner) (n : Nat) (t : Token) : Scanner :=
  { s with tokens := s.tokens.insertIdx (s.count - n) t, count := s.count + 1 }

/-- Moves on by a number of characters. -/
def skip (s : Scanner) (n : Nat) : Scanner := { s with cursor := s.cursor.advance n }

/-- The place of the innermost key. -/
def key? (s : Scanner) : Option KeyMark := s.keys.head?.join

/-- Sets the place of the innermost key. -/
def setKey (s : Scanner) (key : Option KeyMark) : Scanner := { s with keys := key :: s.keys.drop 1 }

/-- **Gives up the innermost key**, unless it has to be one. -/
def dropKey? (s : Scanner) : Option Scanner :=
  match s.key? with
  | some k => if k.required then none else some (s.setKey none)
  | none => some s

/-- **Remembers a key** that could start here. -/
def saveKey? (s : Scanner) : Option Scanner :=
  if s.keyAllowed then do
    let s ← s.dropKey?
    let c := s.cursor
    let required := !s.inFlow && s.indent = (c.column : Int)
    return s.setKey (some ⟨required, s.count, c.line, c.column, c.index⟩)
  else some s

/-- Whether a key that could have started earlier can no longer be one: keys stand on one line and
have at most 1024 characters. -/
def isStale (c : Cursor) (k : KeyMark) : Bool := k.line < c.line || k.index + 1024 < c.index

/-- **Gives up stale keys**, unless one of them has to be one. -/
def dropStaleKeys? (s : Scanner) : Option Scanner := do
  let keys ← s.keys.mapM fun key =>
    match key with
    | some k => if isStale s.cursor k then if k.required then none else some none else some (some k)
    | none => some none
  return { s with keys }

/-- Starts a block at a column, if that is further in: its token comes before the one of a number. -/
def openBlock (s : Scanner) (column : Nat) (before : Nat) (t : Token) : Scanner :=
  if !s.inFlow && s.indent < (column : Int) then
    { s with indent := column, outer := s.indent :: s.outer }.insertAt before t
  else s

/-- Ends the blocks that are further in than a column. -/
def closeBlocks (s : Scanner) (column : Int) : Scanner :=
  if s.inFlow then s else go s.outer.length s
where
  /-- Ends at most a number of blocks. -/
  go : Nat → Scanner → Scanner
    | 0, s => s
    | fuel + 1, s =>
      if column < s.indent then
        match s.outer with
        | indent :: outer => go fuel ({ s with indent, outer }.push .blockEnd)
        | [] => s
      else s

/-- The position of the next token: after white space, comments and line breaks. In a block a tab may
stand only where no key can start, and a line break makes room for a key. A mark of byte order at the
start of a line says nothing, but takes a column as any character does. -/
def toNextToken : Nat → Scanner → Scanner
  | 0, s => s
  | fuel + 1, s =>
    let c := s.cursor
    let c := if c.column = 0 && c.isAt byteOrderMark then c.advance 1 else c
    let tabs := s.inFlow || !s.keyAllowed
    let c := (c.skipWhile fun ch => ch = ' ' || (tabs && ch = '\t')).skipComment
    match c.nextLine? with
    | some (_, next) =>
      toNextToken fuel { s with cursor := next, keyAllowed := s.keyAllowed || !s.inFlow }
    | none => { s with cursor := c }

/-- A directive. -/
def directive? (s : Scanner) : Option Scanner := do
  let s ← (s.closeBlocks (-1)).dropKey?
  let (d, c) ← Yaml.directive? s.cursor
  return { s with cursor := c, keyAllowed := false }.push (.directive d)

/-- A mark of a document. -/
def documentMark? (s : Scanner) (t : Token) : Option Scanner := do
  let s ← (s.closeBlocks (-1)).dropKey?
  return ({ s with keyAllowed := false }.skip 3).push t

/-- An opening bracket. -/
def openFlow? (s : Scanner) (t : Token) : Option Scanner := do
  let s ← s.saveKey?
  return ({ s with keys := none :: s.keys, keyAllowed := true }.skip 1).push t

/-- A closing bracket. -/
def closeFlow? (s : Scanner) (t : Token) : Option Scanner := do
  let s ← s.dropKey?
  let keys := if s.inFlow then s.keys.drop 1 else s.keys
  return ({ s with keys, keyAllowed := false }.skip 1).push t

/-- A comma between items. -/
def flowEntry? (s : Scanner) : Option Scanner := do
  let s ← s.dropKey?
  return ({ s with keyAllowed := true }.skip 1).push .flowEntry

/-- A dash before an item. -/
def blockEntry? (s : Scanner) : Option Scanner := do
  if !s.inFlow && !s.keyAllowed then none
  let s ← (s.openBlock s.cursor.column s.count .blockSequenceStart).dropKey?
  return ({ s with keyAllowed := true }.skip 1).push .blockEntry

/-- The mark of a key. -/
def keyMark? (s : Scanner) : Option Scanner := do
  if !s.inFlow && !s.keyAllowed then none
  let s ← (s.openBlock s.cursor.column s.count .blockMappingStart).dropKey?
  return ({ s with keyAllowed := !s.inFlow }.skip 1).push .key

/-- The colon of a value. -/
def value? (s : Scanner) : Option Scanner :=
  match s.key? with
  | some k =>
    let s := (s.insertAt k.token .key).openBlock k.column k.token .blockMappingStart
    some (({ s.setKey none with keyAllowed := false }.skip 1).push .value)
  | none =>
    if !s.inFlow && !s.keyAllowed then none
    else
      let s := s.openBlock s.cursor.column s.count .blockMappingStart
      some (({ s with keyAllowed := !s.inFlow }.skip 1).push .value)

/-- A name after a mark: of an anchor or an alias. -/
def name? (s : Scanner) (token : String → Token) : Option Scanner := do
  let s ← s.saveKey?
  let (name, c) := (s.cursor.advance 1).span isNameChar
  let ends := c.blankOrEndAt 0 ||
    c.rest.head?.any fun ch =>
      ch = '?' || ch = ':' || ch = ',' || ch = ']' || ch = '}' || ch = '%' || ch = '@' ||
        ch = Char.ofNat 96
  if name.isEmpty || !ends then none
  return { s with cursor := c, keyAllowed := false }.push (token (String.ofList name))

/-- A tag. -/
def tag? (s : Scanner) : Option Scanner := do
  let s ← s.saveKey?
  let ((handle, suffix), c) ← Yaml.tag? s.inFlow s.cursor
  return { s with cursor := c, keyAllowed := false }.push (.tag handle suffix)

/-- A block scalar. -/
def block? (s : Scanner) (folded : Bool) (fuel : Nat) : Option Scanner := do
  let s ← s.dropKey?
  let (text, c) ← blockScalar? folded s.indent fuel s.cursor
  let style := if folded then ScalarStyle.other else .literal
  return { s with cursor := c, keyAllowed := true }.push (.scalar (String.ofList text) style)

/-- A quoted scalar. -/
def quoted? (s : Scanner) (single : Bool) (fuel : Nat) : Option Scanner := do
  let s ← s.saveKey?
  let (text, c) ← quotedScalar? single fuel s.cursor
  return { s with cursor := c, keyAllowed := false }.push (.scalar (String.ofList text) .other)

/-- A plain scalar; a line that ended after it makes room for a key. -/
def plain? (s : Scanner) (fuel : Nat) : Option Scanner := do
  let s ← s.saveKey?
  let (text, broken, c) ← plainScalar? s.inFlow (s.indent + 1).toNat fuel s.cursor
  return { s with cursor := c, keyAllowed := broken }.push (.scalar (String.ofList text) .plain)

/-- A character that starts no plain scalar. -/
def isIndicator (c : Char) : Bool :=
  c = '-' || c = '?' || c = ':' || c = ',' || c = '[' || c = ']' || c = '{' || c = '}' || c = '#' ||
    c = '&' || c = '*' || c = '!' || c = '|' || c = '>' || c = '\'' || c = '"' || c = '%' ||
    c = '@' || c = Char.ofNat 96

/-- Whether a plain scalar starts here: not with an indicator, except that a dash, a question mark or a
colon may start one when a word follows at once. -/
def startsPlain (s : Scanner) (ch : Char) : Bool :=
  !(isBlank ch || isBreak ch || isIndicator ch) ||
    (ch = '-' && !((s.cursor.peek? 1).any isBlank)) ||
    (!s.inFlow && (ch = '?' || ch = ':') && !s.cursor.blankOrEndAt 1)

/-- **One token** at its first character, in a number of steps that no scalar can use up. -/
def token? (s : Scanner) (ch : Char) (fuel : Nat) : Option Scanner :=
  let c := s.cursor
  if c.column = 0 && ch = '%' then s.directive?
  else if c.marks '-' then s.documentMark? .documentStart
  else if c.marks '.' then s.documentMark? .documentEnd
  else if ch = '[' then s.openFlow? .flowSequenceStart
  else if ch = '{' then s.openFlow? .flowMappingStart
  else if ch = ']' then s.closeFlow? .flowSequenceEnd
  else if ch = '}' then s.closeFlow? .flowMappingEnd
  else if ch = ',' then s.flowEntry?
  else if ch = '-' && c.blankOrEndAt 1 then s.blockEntry?
  else if ch = '?' && (s.inFlow || c.blankOrEndAt 1) then s.keyMark?
  else if ch = ':' && (s.inFlow || c.blankOrEndAt 1) then s.value?
  else if ch = '*' then s.name? .alias
  else if ch = '&' then s.name? .anchor
  else if ch = '!' then s.tag?
  else if ch = '|' && !s.inFlow then s.block? false fuel
  else if ch = '>' && !s.inFlow then s.block? true fuel
  else if ch = '\'' then s.quoted? true fuel
  else if ch = '"' then s.quoted? false fuel
  else if s.startsPlain ch then s.plain? fuel
  else none

/-- The scanner at the end of the text: all blocks end, and no key is left open that has to be one. -/
def finish? (s : Scanner) : Option Scanner := (s.closeBlocks (-1)).dropKey?

/-- All tokens from here on; every step but the last takes at least one character, so the steps that
are left are always more than the characters. -/
def run? : Nat → Scanner → Option Scanner
  | 0, _ => none
  | fuel + 1, s => do
    let s ← (s.toNextToken fuel).dropStaleKeys?
    let s := s.closeBlocks s.cursor.column
    match s.cursor.rest with
    | [] => s.finish?
    | ch :: _ => run? fuel (← s.token? ch fuel)

end Scanner

/-- **Tokens of a text**; every character has to be printable. -/
def Token.scan? (text : String) : Option (List Token) := do
  let cs := text.toList
  if !cs.all isPrintable then none
  let s ← Scanner.run? (cs.length + 2) { cursor := { rest := cs } }
  return s.tokens.reverse

end ApiScaffold.Yaml
