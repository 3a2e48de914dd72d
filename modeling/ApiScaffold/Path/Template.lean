/-!
# Path templates

A path template is text with placeholders in braces. `PathToken.scan` takes it apart and
`PathToken.write` puts it back together. Runs of braces count as one, so `{{id}}` holds the
placeholder `id`, and a brace that is never closed is text.
-/

namespace ApiScaffold

/-- **A piece of a path template.** -/
inductive PathToken where
  | text (chars : List Char)
  | placeholder (name : List Char)
  deriving DecidableEq, Repr

namespace PathToken

/-- A text token, unless it is empty. -/
def textIfAny (cs : List Char) : List PathToken := if cs.isEmpty then [] else [.text cs]

theorem length_dropWhile_le (p : Char → Bool) (cs : List Char) :
    (cs.dropWhile p).length ≤ cs.length := by
  induction cs with
  | nil => simp
  | cons c rest ih =>
    by_cases h : p c
    · simp only [List.dropWhile_cons, h, if_true, List.length_cons]; omega
    · simp [h]

set_option linter.unusedVariables false in
/-- **Tokens of a path template.** -/
def scan (cs : List Char) : List PathToken :=
  let before := cs.takeWhile (· ≠ '{')
  match h : cs.dropWhile (· ≠ '{') with
  | [] => textIfAny cs
  | _ :: opened =>
    let inside := opened.dropWhile (· = '{')
    match h' : inside.dropWhile (· ≠ '}') with
    | [] => textIfAny cs
    | _ :: closed =>
      textIfAny before ++
        .placeholder (inside.takeWhile (· ≠ '}')) :: scan (closed.dropWhile (· = '}'))
termination_by cs.length
decreasing_by
  have h1 := length_dropWhile_le (· ≠ '{') cs
  have h2 := length_dropWhile_le (· = '{') opened
  have h3 := length_dropWhile_le (· ≠ '}') (opened.dropWhile (· = '{'))
  have h4 := length_dropWhile_le (· = '}') closed
  simp only [h, List.length_cons] at h1
  have h5 : ((opened.dropWhile (· = '{')).dropWhile (· ≠ '}')).length = closed.length + 1 := by
    rw [show (opened.dropWhile (· = '{')).dropWhile (· ≠ '}') = _ from h']; simp
  omega

/-- The name of a placeholder. -/
def name? : PathToken → Option (List Char)
  | .text _ => none
  | .placeholder name => some name

/-- **Placeholder names** of a path template, in order. -/
def names (cs : List Char) : List (List Char) := (scan cs).filterMap name?

/-- The text of one token, with single braces. -/
def writeOne : PathToken → List Char
  | .text cs => cs
  | .placeholder name => '{' :: name ++ ['}']

/-- **Text of tokens.** -/
def write (tokens : List PathToken) : List Char := tokens.flatMap writeOne

end PathToken

end ApiScaffold
