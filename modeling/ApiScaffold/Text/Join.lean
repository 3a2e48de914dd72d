/-!
# Joining texts

`Text.join` puts a separator between texts, and `Text.lines` takes a text apart at its line breaks.
-/

namespace ApiScaffold.Text

/-- **Texts with a separator between them.** -/
def join (separator : String) : List String → String
  | [] => ""
  | [s] => s
  | s :: t :: rest => s ++ separator ++ join separator (t :: rest)

/-- The lines of a text, without their line feeds; the text after the last line feed is a line unless
it is empty. `current` is the reversed line so far. -/
def linesFrom (current : List Char) : List Char → List (List Char)
  | [] => if current.isEmpty then [] else [current.reverse]
  | c :: rest =>
    if c = '\n' then current.reverse :: linesFrom [] rest else linesFrom (c :: current) rest

/-- A line without a carriage return at its end. -/
def dropReturn (line : List Char) : List Char :=
  match line.reverse with
  | '\r' :: rest => rest.reverse
  | _ => line

/-- **Lines of a text.** Only a line that ended in a line feed loses a carriage return. -/
def lines (s : String) : List String :=
  let cs := s.toList
  let all := linesFrom [] cs
  let ended := cs.getLast? = some '\n'
  match all.reverse with
  | [] => []
  | last :: before =>
    (before.reverse.map fun l => String.ofList (dropReturn l)) ++
      [String.ofList (if ended then dropReturn last else last)]

/-- **Indentation**: every line but the first gets spaces before it, unless it is empty. -/
def indentRest (width : Nat) (s : String) : String :=
  let pad := String.ofList (List.replicate width ' ')
  match lines s with
  | [] => ""
  | first :: rest => join "\n" (first :: rest.map fun l => if l.isEmpty then l else pad ++ l)

end ApiScaffold.Text
