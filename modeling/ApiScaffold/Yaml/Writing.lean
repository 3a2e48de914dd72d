import ApiScaffold.Yaml.Resolve

/-!
# Writing texts as YAML scalars

A text is written plainly where that reads back as the same text. Otherwise it is written

- as a literal block when it has a line feed,
- between single quotes when these can hold it,
- and between double quotes, with escapes, when nothing else can.

`WrittenStyle.of` chooses, and `scalarText` writes.
-/

namespace ApiScaffold.Yaml

/-- **How a text is written.** -/
inductive WrittenStyle where
  | plain
  | literal
  | singleQuoted
  | doubleQuoted
  deriving DecidableEq, Repr

/-- A character that needs no escape; controls, a mark of byte order and the two last code points of the
basic plane do. -/
def isWritable (c : Char) : Bool :=
  let n := c.toNat
  n = 0xA || (0x20 ≤ n && n ≤ 0x7E) || (0xA0 ≤ n && n ≤ 0xD7FF) ||
    (0xE000 ≤ n && n ≤ 0xFFFD && c ≠ byteOrderMark) || 0x10000 ≤ n

/-- Whether a space or break stands next to a character; the ends of a text count as such. -/
def isOpen (neighbour : Option Char) : Bool := neighbour.all fun c => isBlank c || isBreak c

/-- Characters that mean something at the start of a plain scalar. -/
def startIndicators : List Char :=
  ['#', ',', '[', ']', '{', '}', '&', '*', '!', '|', '>', '\'', '"', '%', '@', Char.ofNat 96]

/-- Whether a character means something at the start of a plain scalar. -/
def isStartIndicator (c : Char) (next : Option Char) : Bool :=
  startIndicators.contains c || ((c = '?' || c = ':' || c = '-') && isOpen next)

/-- Whether a later character means something in a plain scalar. -/
def isInnerIndicator (before c : Char) (next : Option Char) : Bool :=
  (c = ':' && isOpen next) || (c = '#' && isOpen (some before))

/-- Whether some later character means something; `before` is the character before. -/
def hasInnerIndicator (before : Char) : List Char → Bool
  | [] => false
  | c :: rest => isInnerIndicator before c rest.head? || hasInnerIndicator c rest

/-- Whether a text starts like the mark of a document. -/
def startsLikeMark (cs : List Char) : Bool :=
  ['-', '-', '-'].isPrefixOf cs || ['.', '.', '.'].isPrefixOf cs

/-- **Indicators**: whether something in a text means more than itself in a plain scalar. -/
def hasIndicator : List Char → Bool
  | [] => false
  | c :: rest =>
    startsLikeMark (c :: rest) || isStartIndicator c rest.head? || hasInnerIndicator c rest

/-- Whether two characters in a row have the given properties. -/
def hasPair (p q : Char → Bool) : List Char → Bool
  | c :: d :: rest => (p c && q d) || hasPair p q (d :: rest)
  | _ => false

/-- Whether a space stands before a break. -/
def hasSpaceBeforeBreak (cs : List Char) : Bool := hasPair (· = ' ') isBreak cs

/-- Whether a space stands after a break. -/
def hasSpaceAfterBreak (cs : List Char) : Bool := hasPair isBreak (· = ' ') cs

/-- Whether a character is a space or break. -/
def isGap (c : Char) : Bool := c = ' ' || isBreak c

/-- Whether single quotes can hold a text. -/
def fitsSingleQuotes (cs : List Char) : Bool :=
  cs.all isWritable && !hasSpaceBeforeBreak cs && !hasSpaceAfterBreak cs

/-- Whether a literal block can hold a text. -/
def fitsLiteral (cs : List Char) : Bool :=
  cs.all isWritable && !hasSpaceBeforeBreak cs && cs.getLast? ≠ some ' '

/-- Whether a text can stand without quotes. -/
def fitsPlain (cs : List Char) : Bool :=
  fitsSingleQuotes cs && !cs.any isBreak && !cs.head?.any isGap && !cs.getLast?.any isGap &&
    !hasIndicator cs

/-- Whether a plain scalar of the text is read as the text. -/
def spellsText (s : String) : Bool := plainLeaf s = .text s && !hasNeedlessZeros s.toList

/-- **Style of a text.** -/
def WrittenStyle.of (s : String) : WrittenStyle :=
  let cs := s.toList
  if cs.contains '\n' then if fitsLiteral cs then .literal else .doubleQuoted
  else if spellsText s && fitsPlain cs then .plain
  else if fitsSingleQuotes cs then .singleQuoted
  else .doubleQuoted

/-! ### The text of each style -/

/-- The spaces before a line. -/
def spaces (n : Nat) : List Char := List.replicate n ' '

/-- Text whose lines start after `indent` columns; `fresh` says whether a line starts here. -/
def indentLines (indent : Nat) (fresh : Bool) : List Char → List Char
  | [] => []
  | c :: rest =>
    if isBreak c then c :: indentLines indent true rest
    else (if fresh then spaces indent else []) ++ c :: indentLines indent false rest

/-- A text with each single quote written twice. -/
def doubleQuotes (cs : List Char) : List Char :=
  cs.flatMap fun c => if c = '\'' then ['\'', '\''] else [c]

/-- **Text between single quotes.** -/
def singleQuotedText (indent : Nat) (cs : List Char) : List Char :=
  '\'' :: indentLines indent false (doubleQuotes cs) ++
    (if cs.getLast?.any isBreak then spaces indent else []) ++ ['\'']

/-- The digits of a number of a fixed width, in base sixteen. -/
def hexDigits (n : Nat) : Nat → List Char
  | 0 => []
  | width + 1 => hexDigits (n / 16) width ++ [(Nat.digitChar (n % 16)).toUpper]

/-- The letter of a short escape. -/
def escapeLetter? (c : Char) : Option Char :=
  match c with
  | '\x00' => some '0'
  | '\x07' => some 'a'
  | '\x08' => some 'b'
  | '\t' => some 't'
  | '\n' => some 'n'
  | '\x0b' => some 'v'
  | '\x0c' => some 'f'
  | '\r' => some 'r'
  | '\x1b' => some 'e'
  | '"' => some '"'
  | '\\' => some '\\'
  | '\u0085' => some 'N'
  | '\u2028' => some 'L'
  | '\u2029' => some 'P'
  | _ => none

/-- One character between double quotes: the short escape if it has one, its number if it may not
stand there, and the character itself otherwise. -/
def escapeChar (c : Char) : List Char :=
  match escapeLetter? c with
  | some l => ['\\', l]
  | none =>
    if isWritable c then [c]
    else if c.toNat ≤ 0xFF then '\\' :: 'x' :: hexDigits c.toNat 2
    else if c.toNat ≤ 0xFFFF then '\\' :: 'u' :: hexDigits c.toNat 4
    else '\\' :: 'U' :: hexDigits c.toNat 8

/-- **Text between double quotes.** -/
def doubleQuotedText (cs : List Char) : List Char := '"' :: cs.flatMap escapeChar ++ ['"']

/-- **What is said about the breaks at the end** of a block: all stay, the one stays, or there is
none. -/
inductive Ending where
  | keep
  | clip
  | strip
  deriving DecidableEq, Repr

namespace Ending

/-- The ending of a text. -/
def of (cs : List Char) : Ending :=
  match cs.reverse with
  | [] => .strip
  | c :: before =>
    if !isBreak c then .strip else if before.head?.all isBreak then .keep else .clip

/-- The mark of an ending. -/
def mark : Ending → List Char
  | keep => ['+']
  | clip => []
  | strip => ['-']

end Ending

/-- **Literal block**: the header, which gives the indentation when the first line cannot show it, and
the indented lines. -/
def literalText (indent : Nat) (cs : List Char) : List Char :=
  '|' :: (if cs.head?.any isGap then ['2'] else []) ++ (Ending.of cs).mark ++ ['\n'] ++
    indentLines indent true cs

/-- **Text of a scalar** whose further lines start after `indent` columns. -/
def scalarText (indent : Nat) (s : String) : String :=
  let cs := s.toList
  match WrittenStyle.of s with
  | .plain => s
  | .literal => String.ofList (literalText indent cs)
  | .singleQuoted => String.ofList (singleQuotedText indent cs)
  | .doubleQuoted => String.ofList (doubleQuotedText cs)

end ApiScaffold.Yaml
