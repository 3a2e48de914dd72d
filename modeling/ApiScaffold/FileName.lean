import ApiScaffold.Text.Summary

/-!
# File names

`FileName.sanitize` makes any text a file name that every platform takes: separators, reserved
punctuation and control characters are dropped, and so are spaces and dots at the end.
-/

namespace ApiScaffold.FileName

/-- Punctuation that some platform reserves. -/
def isReserved (c : Char) : Bool :=
  c = '/' || c = '\\' || c = '?' || c = '<' || c = '>' || c = ':' || c = '*' || c = '|' || c = '"'

/-- Whether a character may stand in a file name. -/
def isAllowed (c : Char) : Bool := !Unicode.isControl c && !isReserved c

/-- The name of what has no usable name. -/
def fallback : String := "_"

/-- **A safe file name.** A name left empty becomes the fallback. -/
def sanitize (name : String) : String :=
  let kept := Text.dropEndWhile (fun c => c = ' ' || c = '.') (name.toList.filter isAllowed)
  if kept.isEmpty then fallback else String.ofList kept

end ApiScaffold.FileName
