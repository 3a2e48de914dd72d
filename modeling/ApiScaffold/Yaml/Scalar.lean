import ApiScaffold.Yaml.Cursor

/-!
# Scalars of YAML text

The three ways to write a scalar over several lines. Inside a plain or quoted scalar a line break with
the blanks around it is folded: one break is a space, and further ones stay as they are. A block
scalar keeps its lines, or folds them, and says what happens to the breaks at its end.

Every reader here is bounded by a number of steps. More steps than characters are left are always
enough, since each step but the last takes a character, so the scanner hands on its own bound and
never counts what is left.
-/

namespace ApiScaffold.Yaml

/-- **White space inside a scalar**: blanks on one line, or the breaks since the line ended. A break
that is escaped is not there, but those after it are. -/
inductive Gap where
  | blanks (chars : List Char)
  | breaks (first : Option Char) (more : List Char)
  deriving Repr

namespace Gap

/-- Whether the line has ended. -/
def isBroken : Gap → Bool
  | blanks _ => false
  | breaks _ _ => true

/-- The text of white space between two words. -/
def text : Gap → List Char
  | blanks cs => cs
  | breaks (some '\n') [] => [' ']
  | breaks (some '\n') more => more
  | breaks (some c) more => c :: more
  | breaks none more => more

/-- Reads white space; a tab may not stand in the first `indent` columns of a further line. -/
def read? (indent : Nat) : Nat → Gap → Cursor → Option (Gap × Cursor)
  | 0, gap, c => some (gap, c)
  | fuel + 1, gap, c =>
    match c.nextLine? with
    | some (b, next) =>
      match gap with
      | blanks _ => read? indent fuel (breaks (some b) []) next
      | breaks first more => read? indent fuel (breaks first (more ++ [b])) next
    | none =>
      match c.rest with
      | ch :: _ =>
        if isBlank ch then
          match gap with
          | blanks cs => read? indent fuel (blanks (cs ++ [ch])) (c.advance 1)
          | breaks first more =>
            if ch = '\t' ∧ c.column < indent then none
            else read? indent fuel (breaks first more) (c.advance 1)
        else some (gap, c)
      | [] => some (gap, c)

end Gap

/-! ### Plain scalars -/

/-- A bracket, brace or comma. -/
def isFlowIndicator (c : Char) : Bool := c = ',' || c = '[' || c = ']' || c = '{' || c = '}'

/-- Whether a plain word ends here. -/
def endsWord (inFlow : Bool) (c : Cursor) : Bool :=
  match c.rest with
  | [] => true
  | ch :: _ =>
    isBlank ch || isBreak ch || (ch = ':' && c.blankOrEndAt 1) || (inFlow && isFlowIndicator ch)

/-- Whether a colon stands before an indicator that it may not touch. -/
def touchesIndicator (inFlow : Bool) (c : Cursor) : Bool :=
  inFlow && c.isAt ':' && (c.peek? 1).any fun ch => isFlowIndicator ch || ch = '?'

/-- A word of a plain scalar. -/
def plainWord? (inFlow : Bool) : Nat → List Char → Cursor → Option (List Char × Cursor)
  | 0, word, c => some (word.reverse, c)
  | fuel + 1, word, c =>
    if touchesIndicator inFlow c then none
    else if endsWord inFlow c then some (word.reverse, c)
    else
      match c.rest with
      | ch :: _ => plainWord? inFlow fuel (ch :: word) (c.advance 1)
      | [] => some (word.reverse, c)

/-- The words of a plain scalar from here on. The result tells also whether the line ended after the
last word. -/
def plainWords? (inFlow : Bool) (indent : Nat) :
    Nat → List Char → Gap → Cursor → Option (List Char × Bool × Cursor)
  | 0, text, gap, c => some (text, gap.isBroken, c)
  | fuel + 1, text, gap, c => do
    if c.atDocumentMark || c.isAt '#' then return (text, gap.isBroken, c)
    let (word, c) ← plainWord? inFlow fuel [] c
    let (text, gap) := if word.isEmpty then (text, gap) else (text ++ gap.text ++ word, Gap.blanks [])
    if !c.atEnd && c.blankOrEndAt 0 then
      let (gap, c) ← gap.read? indent fuel c
      if !inFlow && c.column < indent then return (text, gap.isBroken, c)
      else plainWords? inFlow indent fuel text gap c
    else return (text, gap.isBroken, c)

/-- **Plain scalar**: its text, whether the line ended after it, and the position there. -/
def plainScalar? (inFlow : Bool) (indent : Nat) (fuel : Nat) (c : Cursor) :
    Option (List Char × Bool × Cursor) :=
  plainWords? inFlow indent fuel [] (.blanks []) c

/-! ### Quoted scalars -/

/-- The value of a hexadecimal digit. -/
def hexValue? (c : Char) : Option Nat :=
  if c.isDigit then some (c.toNat - '0'.toNat)
  else if 'a' ≤ c ∧ c ≤ 'f' then some (c.toNat - 'a'.toNat + 10)
  else if 'A' ≤ c ∧ c ≤ 'F' then some (c.toNat - 'A'.toNat + 10)
  else none

/-- The value of hexadecimal digits. -/
def hexNumber? (cs : List Char) : Option Nat :=
  cs.foldlM (fun n c => (hexValue? c).map (16 * n + ·)) 0

/-- The character of a one-letter escape. -/
def shortEscape? (c : Char) : Option Char :=
  match c with
  | '0' => some '\x00'
  | 'a' => some '\x07'
  | 'b' => some '\x08'
  | 't' => some '\t'
  | '\t' => some '\t'
  | 'n' => some '\n'
  | 'v' => some '\x0b'
  | 'f' => some '\x0c'
  | 'r' => some '\r'
  | 'e' => some '\x1b'
  | ' ' => some ' '
  | '"' => some '"'
  | '/' => some '/'
  | '\\' => some '\\'
  | 'N' => some '\u0085'
  | '_' => some '\u00a0'
  | 'L' => some '\u2028'
  | 'P' => some '\u2029'
  | _ => none

/-- The number of digits of a numbered escape. -/
def escapeDigits? (c : Char) : Option Nat :=
  match c with
  | 'x' => some 2
  | 'u' => some 4
  | 'U' => some 8
  | _ => none

/-- The character of an escape after its backslash, and the position after it. -/
def escape? (c : Cursor) : Option (Char × Cursor) :=
  match c.rest with
  | ch :: rest =>
    match escapeDigits? ch with
    | some n => do
      let digits := rest.take n
      let value ← if digits.length = n then hexNumber? digits else none
      if value.isValidChar then return (Char.ofNat value, c.advance (n + 1)) else none
    | none => (shortEscape? ch).map fun d => (d, c.advance 1)
  | [] => none

/-- A word of a quoted scalar: its text, whether an escaped break ended it, and the position there. -/
def quotedWord? (single : Bool) : Nat → List Char → Cursor → Option (List Char × Bool × Cursor)
  | 0, word, c => some (word.reverse, false, c)
  | fuel + 1, word, c =>
    match c.rest with
    | [] => some (word.reverse, false, c)
    | ch :: _ =>
      if isBlank ch || isBreak ch then some (word.reverse, false, c)
      else if single && ch = '\'' then
        if c.peek? 1 = some '\'' then quotedWord? single fuel ('\'' :: word) (c.advance 2)
        else some (word.reverse, false, c)
      else if !single && ch = '"' then some (word.reverse, false, c)
      else if !single && ch = '\\' then
        match (c.advance 1).nextLine? with
        | some (_, next) => some (word.reverse, true, next)
        | none => do
          let (d, c) ← escape? (c.advance 1)
          quotedWord? single fuel (d :: word) c
      else quotedWord? single fuel (ch :: word) (c.advance 1)

/-- The words of a quoted scalar from here on, and the position after the closing quote. -/
def quotedWords? (single : Bool) : Nat → List Char → Cursor → Option (List Char × Cursor)
  | 0, _, _ => none
  | fuel + 1, text, c => do
    if c.atDocumentMark || c.atEnd then none
    else
      let (word, escaped, c) ← quotedWord? single fuel [] c
      let text := text ++ word
      if c.isAt (if single then '\'' else '"') then return (text, c.advance 1)
      else
        let start := if escaped then Gap.breaks none [] else Gap.blanks []
        let (gap, c) ← start.read? 0 fuel c
        quotedWords? single fuel (text ++ gap.text) c

/-- **Quoted scalar**: its text, and the position after it. -/
def quotedScalar? (single : Bool) (fuel : Nat) (c : Cursor) : Option (List Char × Cursor) :=
  quotedWords? single fuel [] (c.advance 1)

/-! ### Block scalars -/

/-- **What happens to the breaks at the end** of a block scalar: all go, one stays, or all stay. -/
inductive Chomping where
  | strip
  | clip
  | keep
  deriving DecidableEq, Repr

/-- The chomping of an indicator. -/
def chomping? (c : Cursor) : Option Chomping :=
  if c.isAt '+' then some .keep else if c.isAt '-' then some .strip else none

/-- The indentation of an indicator; zero is none. -/
def indentDigit? (c : Cursor) : Option Nat :=
  match c.rest with
  | ch :: _ => if ch.isDigit then some (ch.toNat - '0'.toNat) else none
  | [] => none

/-- **Header of a block scalar**: chomping and indentation in any order, and the next line. -/
def blockHeader? (c : Cursor) : Option (Chomping × Option Nat × Cursor) := do
  let (chomping, increment, c) :=
    match chomping? c with
    | some chomping =>
      let c := c.advance 1
      match indentDigit? c with
      | some n => (chomping, some n, c.advance 1)
      | none => (chomping, none, c)
    | none =>
      match indentDigit? c with
      | some n =>
        let c := c.advance 1
        match chomping? c with
        | some chomping => (chomping, some n, c.advance 1)
        | none => (Chomping.clip, some n, c)
      | none => (Chomping.clip, none, c)
  if increment = some 0 then none
  let c ← c.finishLine?
  return (chomping, increment, c)

/-- Empty lines before a line of a block scalar, where `indent` is known unless it is zero: the
breaks, the widest indentation, and the position. A tab may not stand in the indentation. -/
def emptyLines? (indent : Nat) :
    Nat → List Char → Nat → Cursor → Option (List Char × Nat × Cursor)
  | 0, breaks, widest, c => some (breaks, widest, c)
  | fuel + 1, breaks, widest, c =>
    let spaces := (c.rest.takeWhile (· = ' ')).length
    let c := c.advance (if indent = 0 then spaces else min spaces (indent - c.column))
    let widest := max widest c.column
    if (indent = 0 || c.column < indent) && c.isAt '\t' then none
    else
      match c.nextLine? with
      | some (b, next) => emptyLines? indent fuel (breaks ++ [b]) widest next
      | none => some (breaks, widest, c)

/-- The lines of a block scalar. `leading` is the break before the line, if there is one, `trailing`
the breaks of empty lines after it, and `wasBlank` tells whether the line before started with a
blank. -/
def blockLines? (folded : Bool) (indent : Nat) :
    Nat → List Char → Option Char → List Char → Bool → Cursor →
      Option (List Char × Option Char × List Char × Cursor)
  | 0, text, leading, trailing, _, c => some (text, leading, trailing, c)
  | fuel + 1, text, leading, trailing, wasBlank, c =>
    if c.column = indent && !c.atEnd then do
      let blank := c.rest.head?.any isBlank
      let joint : List Char :=
        if folded && leading = some '\n' && !wasBlank && !blank then
          if trailing.isEmpty then [' '] else []
        else leading.toList
      let (line, c) := c.span fun ch => !isBreak ch
      let text := text ++ joint ++ trailing ++ line
      let (leading, c) :=
        match c.nextLine? with
        | some (b, next) => (some b, next)
        | none => (none, c)
      let (trailing, _, c) ← emptyLines? indent fuel [] 0 c
      blockLines? folded indent fuel text leading trailing blank c
    else some (text, leading, trailing, c)

/-- **Block scalar** inside a block at an indentation, none being `-1`: its text, and the position
after it. -/
def blockScalar? (folded : Bool) (outer : Int) (fuel : Nat) (c : Cursor) :
    Option (List Char × Cursor) := do
  let (chomping, increment, c) ← blockHeader? (c.advance 1)
  let known : Nat :=
    match increment with
    | some n => outer.toNat + n
    | none => 0
  let (breaks, widest, c) ← emptyLines? known fuel [] 0 c
  let indent := if known = 0 then max widest (max (outer + 1).toNat 1) else known
  let (text, leading, trailing, c) ←
    blockLines? folded indent fuel [] none breaks false c
  let text := if chomping = .strip then text else text ++ leading.toList
  let text := if chomping = .keep then text ++ trailing else text
  return (text, c)

end ApiScaffold.Yaml
