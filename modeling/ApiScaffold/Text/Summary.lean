import ApiScaffold.Text.Words

/-!
# One-line summaries

`Text.collapse` puts a text on one line with single spaces, and `Text.truncate` cuts it to a number of
characters, on a word boundary where there is one, and marks the cut with three dots.
-/

namespace ApiScaffold.Text

open Unicode

/-- Drops the longest end that has a property throughout. -/
def dropEndWhile (p : Char → Bool) (cs : List Char) : List Char := (cs.reverse.dropWhile p).reverse

/-- Drops white space at the end. -/
def trimEnd (cs : List Char) : List Char := dropEndWhile isSpace cs

/-- Drops white space at both ends. -/
def trim (cs : List Char) : List Char := trimEnd (cs.dropWhile isSpace)

/-- Writes each run of white space as one space; `inside` tells that a run goes on. -/
def squeeze (inside : Bool) : List Char → List Char
  | [] => []
  | c :: rest =>
    if isSpace c then if inside then squeeze true rest else ' ' :: squeeze true rest
    else c :: squeeze false rest

/-- **Collapsed white space**: none at the ends, and a single space for each run inside. -/
def collapse (s : String) : String := String.ofList (squeeze false (trim s.toList))

/-- Whether cutting after `head` would split a word that goes on with `next`. -/
def splitsWord (head : List Char) (next : Option Char) : Bool :=
  next.any isAlphanumeric && head.getLast?.any isAlphanumeric

/-- **What a cut keeps** of the first characters of a text: all of them up to the last white space
when the cut would split a word, but the whole of them when that leaves nothing. -/
def keepWords (head : List Char) (next : Option Char) : List Char :=
  if splitsWord head next then
    let pruned := trimEnd (dropEndWhile (fun c => !isSpace c) head)
    if pruned.isEmpty then head else pruned
  else trimEnd head

/-- **Truncated text**: the text itself if it has at most `limit` characters, and otherwise what a cut
there keeps, followed by three dots. -/
def truncate (s : String) (limit : Nat) : String :=
  let cs := s.toList
  if cs.length ≤ limit then s
  else String.ofList (keepWords (cs.take limit) cs[limit]?) ++ "..."

end ApiScaffold.Text
