/-!
# Lexemes of TOML text

Comments, line ends, keys and strings. A reader of a lexeme takes it from the start of a text and
gives what it says with the text that is left, or nothing where there is none.
-/

namespace ApiScaffold.Toml

/-- White space within a line. -/
def isBlank (c : Char) : Bool := c = ' ' || c = '\t'

/-- Drops white space within a line. -/
def skipBlanks (cs : List Char) : List Char := cs.dropWhile isBlank

/-- The text after an expected start. -/
def after? : List Char → List Char → Option (List Char)
  | [], cs => some cs
  | e :: es, c :: cs => if e = c then after? es cs else none
  | _ :: _, [] => none

/-- The text after a line end. -/
def newline? : List Char → Option (List Char)
  | '\n' :: rest => some rest
  | '\r' :: '\n' :: rest => some rest
  | _ => none

/-- Whether a character may stand in a comment or a literal string: no control character but a
tab. -/
def isTextChar (c : Char) : Bool := c = '\t' || (0x20 ≤ c.toNat && c.toNat ≠ 0x7F)

/-- The text after a comment, if one starts here. -/
def skipComment (cs : List Char) : List Char :=
  match cs with
  | '#' :: rest => rest.dropWhile isTextChar
  | _ => cs

/-- **The text after the end of a line** that says nothing more; the end of the text ends a line. -/
def finishLine? (cs : List Char) : Option (List Char) :=
  match skipComment (skipBlanks cs) with
  | [] => some []
  | cs => newline? cs

/-- Drops white space, comments and line ends; a comment has to end in a line end. -/
def skipLines : Nat → List Char → List Char
  | 0, cs => cs
  | fuel + 1, cs =>
    let cs := skipBlanks cs
    match newline? (skipComment cs) with
    | some rest => skipLines fuel rest
    | none => cs

/-! ### Strings -/

/-- The value of a hexadecimal digit. -/
def hexValue? (c : Char) : Option Nat :=
  if c.isDigit then some (c.toNat - '0'.toNat)
  else if 'a' ≤ c ∧ c ≤ 'f' then some (c.toNat - 'a'.toNat + 10)
  else if 'A' ≤ c ∧ c ≤ 'F' then some (c.toNat - 'A'.toNat + 10)
  else none

/-- The character of a one-letter escape. -/
def shortEscape? (c : Char) : Option Char :=
  match c with
  | 'b' => some '\x08'
  | 't' => some '\t'
  | 'n' => some '\n'
  | 'f' => some '\x0c'
  | 'r' => some '\r'
  | '"' => some '"'
  | '\\' => some '\\'
  | _ => none

/-- The character that a number of hexadecimal digits names. -/
def numberedChar? (count : Nat) (cs : List Char) : Option (Char × List Char) := do
  let digits := cs.take count
  if digits.length ≠ count then none
  let n ← digits.foldlM (fun n c => (hexValue? c).map (16 * n + ·)) 0
  if n.isValidChar then return (Char.ofNat n, cs.drop count) else none

/-- The character of an escape, after its backslash. -/
def escape? : List Char → Option (Char × List Char)
  | 'u' :: rest => numberedChar? 4 rest
  | 'U' :: rest => numberedChar? 8 rest
  | c :: rest => (shortEscape? c).map (·, rest)
  | [] => none

/-- Whether a character stands for itself in a basic string. -/
def isBasicChar (c : Char) : Bool := isTextChar c && c ≠ '"' && c ≠ '\\'

/-- The rest of a basic string on one line, after its text so far in reverse. -/
def basicRest? : Nat → List Char → List Char → Option (String × List Char)
  | 0, _, _ => none
  | fuel + 1, text, cs =>
    match cs with
    | '"' :: rest => some (String.ofList text.reverse, rest)
    | '\\' :: rest => do
      let (c, rest) ← escape? rest
      basicRest? fuel (c :: text) rest
    | c :: rest => if isBasicChar c then basicRest? fuel (c :: text) rest else none
    | [] => none

/-- The rest of a literal string on one line. -/
def literalRest? (cs : List Char) : Option (String × List Char) :=
  let inside := fun c => isTextChar c && c ≠ '\''
  match cs.dropWhile inside with
  | '\'' :: rest => some (String.ofList (cs.takeWhile inside), rest)
  | _ => none

/-- **The end of a string over several lines**: three quotes, before which up to two more belong to
the text. Gives the number of quotes that belong to the text. -/
def closing? (quote : Char) (cs : List Char) : Option (Nat × List Char) :=
  let count := min (cs.takeWhile (· = quote)).length 5
  if count < 3 then none else some (count - 3, cs.drop count)

/-- The text after an escaped line end, which takes all white space after it. -/
def afterEscapedEnd? (cs : List Char) : Option (List Char) :=
  (newline? (skipBlanks cs)).map fun rest => go rest.length rest
where
  /-- Drops white space and line ends. -/
  go : Nat → List Char → List Char
    | 0, cs => cs
    | fuel + 1, cs =>
      let cs := skipBlanks cs
      match newline? cs with
      | some rest => go fuel rest
      | none => cs

/-- The rest of a string over several lines; a literal one has no escapes. -/
def linesRest? (literal : Bool) : Nat → List Char → List Char → Option (String × List Char)
  | 0, _, _ => none
  | fuel + 1, text, cs =>
    let quote := if literal then '\'' else '"'
    match closing? quote cs with
    | some (more, rest) => some (String.ofList (text.reverse ++ List.replicate more quote), rest)
    | none =>
      match newline? cs with
      | some rest => linesRest? literal fuel ('\n' :: text) rest
      | none =>
        match cs with
        | [] => none
        | c :: rest =>
          if !literal && c = '\\' then
            match afterEscapedEnd? rest with
            | some rest => linesRest? literal fuel text rest
            | none => do
              let (d, rest) ← escape? rest
              linesRest? literal fuel (d :: text) rest
          else if isTextChar c then linesRest? literal fuel (c :: text) rest
          else none

/-- The text after a line end, if there is one. -/
def skipNewline (cs : List Char) : List Char := (newline? cs).getD cs

/-- **A string** of any kind. A line end right after the opening of one over several lines is not
part of it. -/
def string? (cs : List Char) : Option (String × List Char) :=
  match cs with
  | '"' :: '"' :: '"' :: rest =>
    let rest := skipNewline rest
    linesRest? false (rest.length + 1) [] rest
  | '\'' :: '\'' :: '\'' :: rest =>
    let rest := skipNewline rest
    linesRest? true (rest.length + 1) [] rest
  | '"' :: rest => basicRest? (rest.length + 1) [] rest
  | '\'' :: rest => literalRest? rest
  | _ => none

/-! ### Keys -/

/-- A character of a bare key. -/
def isKeyChar (c : Char) : Bool := c.isAlphanum || c = '_' || c = '-'

/-- A key without dots: bare, or a string on one line. -/
def simpleKey? (cs : List Char) : Option (String × List Char) :=
  match cs with
  | '"' :: rest => basicRest? (rest.length + 1) [] rest
  | '\'' :: rest => literalRest? rest
  | _ =>
    let word := cs.takeWhile isKeyChar
    if word.isEmpty then none else some (String.ofList word, cs.dropWhile isKeyChar)

/-- The parts of a dotted key, with white space around each. -/
def keyParts? : Nat → List Char → Option (List String × List Char)
  | 0, _ => none
  | fuel + 1, cs => do
    let (part, rest) ← simpleKey? (skipBlanks cs)
    match skipBlanks rest with
    | '.' :: more =>
      let (parts, rest) ← keyParts? fuel more
      return (part :: parts, rest)
    | rest => return ([part], rest)

/-- The number of parts that a key stays below. -/
def keyLimit : Nat := 80

/-- **A dotted key.** -/
def key? (cs : List Char) : Option (List String × List Char) := do
  let (parts, rest) ← keyParts? (cs.length + 1) cs
  if parts.length < keyLimit then return (parts, rest) else none

end ApiScaffold.Toml
