/-!
# Percent-encoded braces

A path may write the braces of its placeholders as `%7B` and `%7D`, in either case. `Braces.decode`
undoes the four escapes one after the other, and `Braces.decodeOnce` all at once from left to right.
-/

namespace ApiScaffold.Braces

/-- Replaces the escape with the given last digit by a brace. -/
def unescape (digit brace : Char) : List Char → List Char
  | '%' :: '7' :: d :: rest =>
    if d = digit then brace :: unescape digit brace rest
    else '%' :: unescape digit brace ('7' :: d :: rest)
  | c :: rest => c :: unescape digit brace rest
  | [] => []
termination_by cs => cs.length

/-- **Decoded braces**, by four replacements. -/
def decode (cs : List Char) : List Char :=
  unescape 'd' '}' (unescape 'D' '}' (unescape 'b' '{' (unescape 'B' '{' cs)))

/-- The brace that an escape with the given last digit stands for. -/
def brace? (digit : Char) : Option Char :=
  if digit = 'B' ∨ digit = 'b' then some '{'
  else if digit = 'D' ∨ digit = 'd' then some '}'
  else none

/-- **Decoded braces**, in one pass. -/
def decodeOnce : List Char → List Char
  | '%' :: '7' :: d :: rest =>
    match brace? d with
    | some brace => brace :: decodeOnce rest
    | none => '%' :: decodeOnce ('7' :: d :: rest)
  | c :: rest => c :: decodeOnce rest
  | [] => []
termination_by cs => cs.length

end ApiScaffold.Braces
