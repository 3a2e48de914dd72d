import ApiScaffold.Json.Number

/-!
# Tokens of JSON text

`Token.scan?` splits a text into tokens, one character at a time with an explicit state, and fails on
a malformed string or word. Two kinds of token may be unreadable although they are well formed: a
string whose escapes name half of a surrogate pair, and a number outside the finite range. They are
kept as such, because a reader that skips them accepts the text.
-/

namespace ApiScaffold.Json

/-- **A token.** A string or number that cannot be read holds nothing. -/
inductive Token where
  | openArray
  | closeArray
  | openObject
  | closeObject
  | colon
  | comma
  | null
  | bool (value : Bool)
  | number (value : Option NumberValue)
  | string (value : Option String)
  deriving DecidableEq, Repr

namespace Token

/-- White space between tokens. -/
def isSpace (c : Char) : Bool := c = ' ' || c = '\t' || c = '\n' || c = '\r'

/-- The token of a punctuation character. -/
def punctuation? : Char → Option Token
  | '[' => some .openArray
  | ']' => some .closeArray
  | '{' => some .openObject
  | '}' => some .closeObject
  | ':' => some .colon
  | ',' => some .comma
  | _ => none

/-- The token of a run of other characters: a literal name or a number. -/
def word? (cs : List Char) : Option Token :=
  if cs = ['n', 'u', 'l', 'l'] then some .null
  else if cs = ['t', 'r', 'u', 'e'] then some (.bool true)
  else if cs = ['f', 'a', 'l', 's', 'e'] then some (.bool false)
  else (NumberText.ofChars? cs).map fun n => .number n.value?

/-- The value of a hexadecimal digit. -/
def hexValue? (c : Char) : Option Nat :=
  if c.isDigit then some (c.toNat - '0'.toNat)
  else if 'a' ≤ c ∧ c ≤ 'f' then some (c.toNat - 'a'.toNat + 10)
  else if 'A' ≤ c ∧ c ≤ 'F' then some (c.toNat - 'A'.toNat + 10)
  else none

/-- The character of a one-letter escape. -/
def shortEscape? : Char → Option Char
  | '"' => some '"'
  | '\\' => some '\\'
  | '/' => some '/'
  | 'b' => some '\x08'
  | 'f' => some '\x0c'
  | 'n' => some '\n'
  | 'r' => some '\r'
  | 't' => some '\t'
  | _ => none

/-- **The string read so far.** `chars` is reversed; `high` is the first half of a surrogate pair
whose second half has to follow at once; `broken` says that some half stands alone. -/
structure Literal where
  chars : List Char
  high : Option Nat
  broken : Bool
  deriving DecidableEq, Repr

namespace Literal

/-- The empty string. -/
def empty : Literal := ⟨[], none, false⟩

/-- Adds a character. -/
def push (l : Literal) (c : Char) : Literal :=
  ⟨c :: l.chars, none, l.broken || l.high.isSome⟩

/-- Adds a UTF-16 unit. -/
def pushUnit (l : Literal) (u : Nat) : Literal :=
  match l.high with
  | some h =>
    if 0xDC00 ≤ u ∧ u ≤ 0xDFFF then
      ⟨Char.ofNat (0x10000 + (h - 0xD800) * 0x400 + (u - 0xDC00)) :: l.chars, none, l.broken⟩
    else { l with high := none, broken := true }
  | none =>
    if 0xDC00 ≤ u ∧ u ≤ 0xDFFF then { l with broken := true }
    else if 0xD800 ≤ u ∧ u ≤ 0xDBFF then { l with high := some u }
    else l.push (Char.ofNat u)

/-- The string, if every surrogate is paired. -/
def value? (l : Literal) : Option String :=
  if l.broken || l.high.isSome then none else some (String.ofList l.chars.reverse)

end Literal

/-- **Where the scanner stands.** A word is kept reversed; in a `\u` escape the digits read so far
and their value are kept. -/
inductive Scan where
  | between
  | word (chars : List Char)
  | literal (text : Literal)
  | escape (text : Literal)
  | unicode (text : Literal) (digits : Nat) (unit : Nat)
  deriving DecidableEq, Repr

/-- One character outside strings and words. -/
def stepBetween (c : Char) (tokens : List Token) : Option (Scan × List Token) :=
  if isSpace c then some (.between, tokens)
  else if c = '"' then some (.literal .empty, tokens)
  else
    match punctuation? c with
    | some t => some (.between, t :: tokens)
    | none => some (.word [c], tokens)

/-- Whether a character ends a word. -/
def endsWord (c : Char) : Bool := isSpace c || c = '"' || (punctuation? c).isSome

/-- **One character**, with the tokens so far in reverse. -/
def step : Scan × List Token → Char → Option (Scan × List Token)
  | (.between, tokens), c => stepBetween c tokens
  | (.word chars, tokens), c =>
    if endsWord c then (word? chars.reverse).bind fun t => stepBetween c (t :: tokens)
    else some (.word (c :: chars), tokens)
  | (.literal text, tokens), c =>
    if c = '"' then some (.between, .string text.value? :: tokens)
    else if c = '\\' then some (.escape text, tokens)
    else if c.toNat < 32 then none
    else some (.literal (text.push c), tokens)
  | (.escape text, tokens), c =>
    if c = 'u' then some (.unicode text 0 0, tokens)
    else (shortEscape? c).map fun d => (.literal (text.push d), tokens)
  | (.unicode text digits unit, tokens), c =>
    (hexValue? c).map fun v =>
      let unit := 16 * unit + v
      if digits = 3 then (.literal (text.pushUnit unit), tokens)
      else (.unicode text (digits + 1) unit, tokens)

/-- The tokens at the end of the text; a string that is still open has none. -/
def finish? : Scan × List Token → Option (List Token)
  | (.between, tokens) => some tokens.reverse
  | (.word chars, tokens) => (word? chars.reverse).map fun t => (t :: tokens).reverse
  | _ => none

/-- **Tokens of a text.** -/
def scan? (cs : List Char) : Option (List Token) :=
  (cs.foldlM step (.between, [])).bind finish?

end Token

end ApiScaffold.Json
