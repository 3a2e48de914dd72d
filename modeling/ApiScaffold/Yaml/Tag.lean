import ApiScaffold.Yaml.Scalar

/-!
# Tags and directives of YAML text

A tag is written as a handle and a suffix, or whole between angle brackets. It is a row of octets,
because its escapes stand for octets, and not every row that they make is a text. A zero ends the row,
whatever is written after it. A directive stands on a line of its own before a document: the version
of the format, or what a handle stands for.
-/

namespace ApiScaffold.Yaml

/-- A character of the suffix of a tag; brackets and commas only between angle brackets. -/
def isTagChar (verbatim : Bool) (c : Char) : Bool :=
  isNameChar c || c = ';' || c = '/' || c = '?' || c = ':' || c = '@' || c = '&' || c = '=' ||
    c = '+' || c = '$' || c = '.' || c = '%' || c = '!' || c = '~' || c = '*' || c = '\'' ||
    c = '(' || c = ')' || (verbatim && (c = ',' || c = '[' || c = ']'))

/-- The octet of an escape: a percent sign and two hexadecimal digits. -/
def escapedOctet? : List Char → Option Nat
  | '%' :: a :: b :: _ => do return 16 * (← hexValue? a) + (← hexValue? b)
  | _ => none

/-- The number of octets that follow one which starts a character. -/
def furtherCount? (octet : Nat) : Option Nat :=
  if octet < 0x80 then some 0
  else if 0xC0 ≤ octet ∧ octet < 0xE0 then some 1
  else if 0xE0 ≤ octet ∧ octet < 0xF0 then some 2
  else if 0xF0 ≤ octet ∧ octet < 0xF8 then some 3
  else none

/-- The further octets of an escaped character, and what follows them. -/
def furtherOctets? : Nat → List Char → Option (List UInt8 × List Char)
  | 0, cs => some ([], cs)
  | n + 1, cs => do
    let octet ← escapedOctet? cs
    if 0x80 ≤ octet ∧ octet < 0xC0 then
      let (more, rest) ← furtherOctets? n (cs.drop 3)
      return (octet.toUInt8 :: more, rest)
    else none

/-- The octets of an escaped character, and what follows it. Their number has to be right, but they may
still be no character. -/
def escapedOctets? (cs : List Char) : Option (List UInt8 × List Char) := do
  let octet ← escapedOctet? cs
  let (more, rest) ← furtherOctets? (← furtherCount? octet) (cs.drop 3)
  return (octet.toUInt8 :: more, rest)

/-- The octets of characters, each of which is one octet. -/
def octets (cs : List Char) : List UInt8 := cs.map Char.toUInt8

/-- The text of octets, if they are one. -/
def octetText? (octets : List UInt8) : Option String := String.fromUTF8? ⟨octets.toArray⟩

/-- The octets of a suffix, and what follows them. -/
def tagChars? (verbatim : Bool) : Nat → List Char → Option (List UInt8 × List Char)
  | 0, cs => some ([], cs)
  | fuel + 1, cs =>
    match cs with
    | [] => some ([], [])
    | c :: rest =>
      if c = '%' then do
        let (escaped, rest) ← escapedOctets? cs
        let (more, rest) ← tagChars? verbatim fuel rest
        return (escaped ++ more, rest)
      else if isTagChar verbatim c then do
        let (more, rest) ← tagChars? verbatim fuel rest
        return (c.toUInt8 :: more, rest)
      else some ([], cs)

/-- The suffix at a position, and the position after it. -/
def tagSuffix? (verbatim : Bool) (c : Cursor) : Option (List UInt8 × Cursor) := do
  let (suffix, rest) ← tagChars? verbatim c.rest.length c.rest
  return (suffix, c.advance (c.rest.length - rest.length))

/-- The octets before a zero. -/
def beforeZero (octets : List UInt8) : List UInt8 := octets.takeWhile (· ≠ 0)

/-- **Tag**: its handle and suffix, and the position after it. The handle is empty for a whole tag,
and `!` for a suffix alone; the lone mark is whole. -/
def tag? (inFlow : Bool) (c : Cursor) : Option ((String × List UInt8) × Cursor) := do
  let (tag, c) ←
    if c.peek? 1 = some '<' then do
      let (suffix, c) ← tagSuffix? true (c.advance 2)
      if !suffix.isEmpty && c.isAt '>' then
        some (("", beforeZero suffix), c.advance 1)
      else none
    else
      let (name, after) := (c.advance 1).span isNameChar
      if after.isAt '!' then do
        let (suffix, c) ← tagSuffix? false (after.advance 1)
        if suffix.isEmpty then none
        else some ((String.ofList ('!' :: name ++ ['!']), beforeZero suffix), c)
      else do
        let (suffix, c) ← tagSuffix? false after
        let suffix := beforeZero (octets name ++ suffix)
        if suffix.isEmpty then some (("", octets ['!']), c) else some (("!", suffix), c)
  if c.blankOrEndAt 0 || (inFlow && c.isAt ',') then return (tag, c) else none

/-- **A directive.** -/
inductive Directive where
  | version (major minor : Nat)
  | handle (name : String) (start : List UInt8)
  deriving DecidableEq, Repr

/-- A number of at most nine digits. -/
def shortNumber? (c : Cursor) : Option (Nat × Cursor) :=
  let (ds, c) := c.span Char.isDigit
  if ds.isEmpty || ds.length > 9 then none
  else some (ds.foldl (fun n d => 10 * n + (d.toNat - '0'.toNat)) 0, c)

/-- The version in a directive. -/
def versionDirective? (c : Cursor) : Option (Directive × Cursor) := do
  let (major, c) ← shortNumber? c.skipBlanks
  if c.isAt '.' then
    let (minor, c) ← shortNumber? (c.advance 1)
    return (.version major minor, c)
  else none

/-- The handle in a directive, and what it stands for. -/
def handleDirective? (c : Cursor) : Option (Directive × Cursor) := do
  let c := c.skipBlanks
  if !c.isAt '!' then none
  let (name, after) := (c.advance 1).span isNameChar
  let (handle, c) ←
    if after.isAt '!' then some ('!' :: name ++ ['!'], after.advance 1)
    else if name.isEmpty then some (['!'], after)
    else none
  if !c.rest.head?.any isBlank then none
  let (start, c) ← tagSuffix? true c.skipBlanks
  if start.isEmpty || !c.blankOrEndAt 0 then none
  return (.handle (String.ofList handle) (beforeZero start), c)

/-- **Directive** on a line of its own, and the next line. -/
def directive? (c : Cursor) : Option (Directive × Cursor) := do
  let (name, c) := (c.advance 1).span isNameChar
  if !c.blankOrEndAt 0 then none
  let (directive, c) ←
    if name = ['Y', 'A', 'M', 'L'] then versionDirective? c
    else if name = ['T', 'A', 'G'] then handleDirective? c
    else none
  return (directive, ← c.finishLine?)

end ApiScaffold.Yaml
