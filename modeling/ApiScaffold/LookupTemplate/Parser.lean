import ApiScaffold.LookupTemplate.Expression
import ApiScaffold.Unicode.Alphanumeric

/-!
# Template text

Values stand in double braces and comments in braces with a number sign. Before everything else,
comments may stand and then imports of macro files, in braces with a percent sign; the white space
around imports is no text. A minus sign inside a brace drops the white space of the text on its side.
`LookupTemplate.parse?` reads the text of a template; the files that may be imported are given by name.
-/

namespace ApiScaffold.LookupTemplate

/-- **A part of a template**: text, or a value or comment with its minus signs. -/
inductive Part where
  | text (chars : List Char)
  | braces (left right : Bool) (piece : Option LookupPiece)
  deriving Repr, Inhabited

namespace Part

/-- Whether a minus sign drops the white space before a part. -/
def dropsBefore : Part → Bool
  | text _ => false
  | braces left _ _ => left

/-- A piece of text, unless it is empty. -/
def textPiece (cs : List Char) : List LookupPiece :=
  if cs.isEmpty then [] else [.text (String.ofList cs)]

/-- Text without white space on the given sides. -/
def trimmed (left right : Bool) (cs : List Char) : List Char :=
  let cs := if left then cs.dropWhile Unicode.isSpace else cs
  if right then (cs.reverse.dropWhile Unicode.isSpace).reverse else cs

/-- **Pieces of parts**; `left` says whether white space is dropped at the start. -/
def pieces (left : Bool) : List Part → List LookupPiece
  | [] => []
  | text cs :: rest =>
    textPiece (trimmed left (rest.head?.any dropsBefore) cs) ++ pieces false rest
  | braces _ right piece :: rest => piece.toList ++ pieces right rest

end Part

/-- A minus sign, if there is one. -/
def minus (cs : List Char) : Bool × List Char :=
  match cs with
  | '-' :: rest => (true, rest)
  | _ => (false, cs)

/-- Whether braces with a meaning start here. -/
def startsBraces : List Char → Bool
  | '{' :: c :: _ => c = '{' || c = '%' || c = '#'
  | _ => false

/-- The text up to the next braces with a meaning. -/
def plainText : List Char → List Char × List Char
  | [] => ([], [])
  | c :: rest =>
    if startsBraces (c :: rest) then ([], c :: rest)
    else
      let (text, rest) := plainText rest
      (c :: text, rest)

/-- The end of a comment: whether a minus sign stands there, and what follows. -/
def commentEnd? : List Char → Option (Bool × List Char)
  | '#' :: '}' :: rest => some (false, rest)
  | '-' :: '#' :: '}' :: rest => some (true, rest)
  | _ => none

/-- What follows the end of a comment. -/
def afterComment? : List Char → Option (Bool × List Char)
  | [] => none
  | c :: rest => (commentEnd? (c :: rest)).orElse fun _ => afterComment? rest

/-- A comment after its opening; it may not be empty. -/
def comment? (cs : List Char) : Option (Part × List Char) := do
  let (left, rest) := minus cs
  if (commentEnd? rest).isSome then none
  let (right, rest) ← afterComment? rest
  return (.braces left right none, rest)

/-- A value after its opening braces. -/
def valuePart? (cs : List Char) : Option (Part × List Char) := do
  let (left, rest) := minus cs
  let (piece, rest) ← value? (skipBlanks rest)
  let (right, rest) := minus (skipBlanks rest)
  return (.braces left right piece, ← after? "\x7d\x7d" rest)

/-- The parts of a text without imports; every part takes at least one character. -/
def parts? : Nat → List Char → Option (List Part)
  | _, [] => some []
  | 0, _ :: _ => none
  | fuel + 1, '{' :: '{' :: rest => do
    let (part, rest) ← valuePart? rest
    return part :: (← parts? fuel rest)
  | fuel + 1, '{' :: '#' :: rest => do
    let (part, rest) ← comment? rest
    return part :: (← parts? fuel rest)
  | _, '{' :: '%' :: _ => none
  | fuel + 1, cs => do
    let (text, rest) := plainText cs
    return .text text :: (← parts? fuel rest)

/-- The text after the comments at the start, which take at most `fuel` steps. -/
def afterComments? : Nat → List Char → Option (List Char)
  | fuel + 1, '{' :: '#' :: rest => do
    let (_, rest) ← comment? rest
    afterComments? fuel rest
  | _, cs => some cs

/-- What follows white space, of which there has to be some. -/
def afterBlanks? (cs : List Char) : Option (List Char) :=
  if cs.head?.any isBlank then some (skipBlanks cs) else none

/-- **One import**: the file, whether a minus sign stands at its end, and what follows. -/
def import? (cs : List Char) : Option (String × Bool × List Char) := do
  let (_, rest) := minus (← after? "\x7b%" (skipBlanks cs))
  let (file, rest) ← quoted? (← afterBlanks? (← after? "import" (skipBlanks rest)))
  let (_, rest) ← name? (← afterBlanks? (← after? "as" (← afterBlanks? rest)))
  let (right, rest) := minus (skipBlanks rest)
  return (file, right, skipBlanks (← after? "%\x7d" rest))

/-- The imported files, whether a minus sign stands at the end of the last one, and what follows the
imports, of which there are at most `fuel`. -/
def imports (right : Bool) : Nat → List Char → List String × Bool × List Char
  | 0, cs => ([], right, cs)
  | fuel + 1, cs =>
    match import? cs with
    | none => ([], right, cs)
    | some (file, right, rest) =>
      let (files, right, rest) := imports right fuel rest
      (file :: files, right, rest)

/-- **Template of a text.** -/
def parse? (files : List String) (text : String) : Option LookupTemplate := do
  let cs := text.toList
  let cs ← afterComments? cs.length cs
  let (imported, right, rest) := imports false cs.length cs
  if imported.all files.contains then
    return Part.pieces right (← parts? rest.length rest)
  else none

end ApiScaffold.LookupTemplate
