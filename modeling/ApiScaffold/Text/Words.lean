import ApiScaffold.Text.Join
import ApiScaffold.Unicode.Alphanumeric
import ApiScaffold.Unicode.Case
import ApiScaffold.Unicode.CaseMapping

/-!
# Words of a name

A name such as `accessToken`, `X-API-KEY` or `HTTPBearer` is a run of words. `Text.words` finds them:
characters other than letters and digits separate words, and inside a run a word ends

- after a lowercase letter that an uppercase letter follows, and
- before the last uppercase letter of several that a lowercase letter follows.

`Text.screamingSnake` and `Text.lowerCamel` write the words back in a fixed form.
-/

namespace ApiScaffold.Text

open Unicode

/-- The case of the last cased letter of the word so far; letters without case do not change it. -/
inductive WordCase where
  | none
  | lower
  | upper
  deriving DecidableEq, Repr

/-- The case after one more character. -/
def WordCase.after (m : WordCase) (c : Char) : WordCase :=
  if isLowercase c then .lower else if isUppercase c then .upper else m

/-- **Words of a run** of letters and digits. `current` is the reversed word so far, and `m` the case
of its last cased letter. -/
def splitRun (m : WordCase) (current : List Char) : List Char → List (List Char)
  | [] => if current.isEmpty then [] else [current.reverse]
  | [c] => [(c :: current).reverse]
  | c :: next :: rest =>
    if m.after c = .lower && isUppercase next then
      (c :: current).reverse :: splitRun .none [] (next :: rest)
    else if m = .upper && isUppercase c && isLowercase next then
      current.reverse :: splitRun .none [c] (next :: rest)
    else splitRun (m.after c) (c :: current) (next :: rest)

/-- The runs of characters with a property; `current` is the reversed run so far. -/
def runsOf (p : Char → Bool) (current : List Char) : List Char → List (List Char)
  | [] => if current.isEmpty then [] else [current.reverse]
  | c :: rest =>
    if p c then runsOf p (c :: current) rest
    else if current.isEmpty then runsOf p [] rest
    else current.reverse :: runsOf p [] rest

/-- **Words of a name.** -/
def words (s : List Char) : List (List Char) :=
  (runsOf isAlphanumeric [] s).flatMap (splitRun .none [])

/-- A word in uppercase. -/
def upperWord (w : List Char) : List Char := w.flatMap toUpper

/-- A word in lowercase. A capital sigma at its end takes the final form. -/
def lowerWord : List Char → List Char
  | [] => []
  | [c] => if c = 'Σ' then ['ς'] else toLower c
  | c :: next :: rest => toLower c ++ lowerWord (next :: rest)

/-- A word with its first letter in uppercase and the others in lowercase. -/
def capitalized : List Char → List Char
  | [] => []
  | c :: rest => toUpper c ++ lowerWord rest

/-- **`SCREAMING_SNAKE_CASE`**, the form of the names of environment variables. -/
def screamingSnake (s : String) : String :=
  join "_" ((words s.toList).map fun w => String.ofList (upperWord w))

/-- **`lowerCamelCase`**, the form of the names of query parameters that carry a key. -/
def lowerCamel (s : String) : String :=
  match words s.toList with
  | [] => ""
  | w :: rest => String.ofList (lowerWord w ++ rest.flatMap capitalized)

end ApiScaffold.Text
