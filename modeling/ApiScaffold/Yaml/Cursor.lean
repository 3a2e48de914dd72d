/-!
# Positions in YAML text

A cursor is the text that is left to read, with the line and column where it starts and the number of
characters before it. `Cursor.advance` moves within a line and `Cursor.nextLine?` over a line break,
so a column always counts the characters since the last break.
-/

namespace ApiScaffold.Yaml

/-- A character that ends a line. -/
def isBreak (c : Char) : Bool :=
  c = '\n' || c = '\r' || c = '\u0085' || c = '\u2028' || c = '\u2029'

/-- A space or tab. -/
def isBlank (c : Char) : Bool := c = ' ' || c = '\t'

/-- A character of a name: of an anchor, a handle or a directive. -/
def isNameChar (c : Char) : Bool := c.isAlphanum || c = '_' || c = '-'

/-- A character that may stand in a text at all. -/
def isPrintable (c : Char) : Bool :=
  let n := c.toNat
  n = 0x9 || n = 0xA || n = 0xD || (0x20 ≤ n && n ≤ 0x7E) || n = 0x85 ||
    (0xA0 ≤ n && n ≤ 0xD7FF) || (0xE000 ≤ n && n ≤ 0xFFFD) || 0x10000 ≤ n

/-- The mark of byte order, which may stand at the start of a line. -/
def byteOrderMark : Char := '\ufeff'

/-- **A position** in a text. -/
structure Cursor where
  rest : List Char
  line : Nat := 0
  column : Nat := 0
  index : Nat := 0
  deriving Repr, Inhabited

namespace Cursor

/-- Whether the text is at its end. -/
def atEnd (c : Cursor) : Bool := c.rest.isEmpty

/-- The character at a distance. -/
def peek? (c : Cursor) (n : Nat) : Option Char := c.rest[n]?

/-- Whether the next character is the given one. -/
def isAt (c : Cursor) (ch : Char) : Bool := c.rest.head? = some ch

/-- Whether the character at a distance is a blank or a break, or there is none. -/
def blankOrEndAt (c : Cursor) (n : Nat) : Bool :=
  match c.peek? n with
  | some ch => isBlank ch || isBreak ch
  | none => true

/-- The position after a number of characters of the line. -/
def advance (c : Cursor) (n : Nat) : Cursor :=
  { c with rest := c.rest.drop n, column := c.column + n, index := c.index + n }

/-- The characters up to the first without a property, and the position there. -/
def span (c : Cursor) (p : Char → Bool) : List Char × Cursor :=
  let taken := c.rest.takeWhile p
  (taken, c.advance taken.length)

/-- The position after all characters with a property. -/
def skipWhile (c : Cursor) (p : Char → Bool) : Cursor := (c.span p).2

/-- The position after blanks. -/
def skipBlanks (c : Cursor) : Cursor := c.skipWhile isBlank

/-- The start of the next line, after a number of characters. -/
def toNextLine (c : Cursor) (n : Nat) : Cursor :=
  { rest := c.rest.drop n, line := c.line + 1, column := 0, index := c.index + n }

/-- **The start of the next line**, if the line ends here, with the break in its normal form: a line
feed, except that the separators of lines and paragraphs stay what they are. -/
def nextLine? (c : Cursor) : Option (Char × Cursor) :=
  match c.rest with
  | '\r' :: '\n' :: _ => some ('\n', c.toNextLine 2)
  | ch :: _ =>
    if isBreak ch then
      some (if ch = '\u2028' ∨ ch = '\u2029' then ch else '\n', c.toNextLine 1)
    else none
  | [] => none

/-- The position after a comment, if one starts here. -/
def skipComment (c : Cursor) : Cursor :=
  if c.isAt '#' then c.skipWhile fun ch => !isBreak ch else c

/-- **The end of a line that says nothing more**: the start of the next one, unless there is more on
this one than blanks and a comment. -/
def finishLine? (c : Cursor) : Option Cursor :=
  let c := c.skipBlanks.skipComment
  match c.nextLine? with
  | some (_, next) => some next
  | none => if c.atEnd then some c else none

/-- Whether three given characters stand alone at the start of the line. -/
def marks (c : Cursor) (ch : Char) : Bool :=
  c.column = 0 && c.rest.take 3 = [ch, ch, ch] && c.blankOrEndAt 3

/-- Whether a document starts or ends here. -/
def atDocumentMark (c : Cursor) : Bool := c.marks '-' || c.marks '.'

end Cursor

end ApiScaffold.Yaml
