import ApiScaffold.LookupTemplate.Basic

/-!
# Values in templates

What stands between double braces: a literal, a path or a call, with filters after it. White space may
stand between the parts, but not inside a path. Each reader takes a text and gives what it read with
the rest of the text.
-/

namespace ApiScaffold.LookupTemplate

/-- White space between the parts of a value or tag. -/
def isBlank (c : Char) : Bool := c = ' ' || c = '\t' || c = '\n' || c = '\r'

/-- Drops white space. -/
def skipBlanks (cs : List Char) : List Char := cs.dropWhile isBlank

/-- The rest of a text after an expected start. -/
def after? (start : String) (cs : List Char) : Option (List Char) :=
  if start.toList.isPrefixOf cs then some (cs.drop start.length) else none

/-- Whether a character may start a name. -/
def startsName (c : Char) : Bool := c.isAlpha || c = '_'

/-- Whether a character may go on in a name. -/
def continuesName (c : Char) : Bool := c.isAlphanum || c = '_'

/-- A name. -/
def name? (cs : List Char) : Option (String × List Char) :=
  match cs with
  | c :: _ =>
    if startsName c then
      some (String.ofList (cs.takeWhile continuesName), cs.dropWhile continuesName)
    else none
  | [] => none

/-- A quoted text, without escapes. -/
def quoted? : List Char → Option (String × List Char)
  | q :: rest =>
    if q = '"' ∨ q = '\'' ∨ q = Char.ofNat 96 then
      match rest.dropWhile (· ≠ q) with
      | _ :: after => some (String.ofList (rest.takeWhile (· ≠ q)), after)
      | [] => none
    else none
  | [] => none

/-- The digits of a natural number, without a needless zero in front. -/
def digits? (cs : List Char) : Option (List Char × List Char) :=
  match cs with
  | '0' :: rest => some (['0'], rest)
  | _ =>
    let ds := cs.takeWhile Char.isDigit
    if ds.isEmpty then none else some (ds, cs.dropWhile Char.isDigit)

/-- The number of decimal digits. -/
def digitsValue (ds : List Char) : Nat := ds.foldl (fun n c => 10 * n + (c.toNat - '0'.toNat)) 0

/-- Whether an integer has at most 64 bits. -/
def isSmall (n : Int) : Bool := -(twoTo 63 : Int) ≤ n && n < (twoTo 63 : Int)

/-- A number, which is an integer unless digits follow a point. -/
def number? (cs : List Char) : Option (Json × List Char) := do
  let (negative, rest) :=
    match cs with
    | '-' :: rest => (true, rest)
    | _ => (false, cs)
  let (whole, rest) ← digits? rest
  let fraction :=
    match rest with
    | '.' :: rest => rest.takeWhile Char.isDigit
    | _ => []
  if fraction.isEmpty then
    let n : Int := digitsValue whole
    let n := if negative then -n else n
    if isSmall n then return (.int n, rest) else none
  else
    let x ← Binary64.ofDecimal? negative (digitsValue (whole ++ fraction)) (-(fraction.length : Int))
    return (.float x, rest.drop (fraction.length + 1))

/-- A truth value. -/
def truth? (cs : List Char) : Option (Json × List Char) :=
  ["true", "True"].findSome? (fun word => (after? word cs).map fun rest => (Json.bool true, rest))
    |>.orElse fun _ =>
      ["false", "False"].findSome? fun word =>
        (after? word cs).map fun rest => (Json.bool false, rest)

/-- One further step of a path: a dot and a word, or a text or number in brackets. A negative number
leads nowhere. -/
def step? : List Char → Option (String × List Char)
  | '.' :: rest =>
    let word := rest.takeWhile continuesName
    if word.isEmpty then none else some (String.ofList word, rest.dropWhile continuesName)
  | '[' :: rest => do
    let (step, rest) ←
      (quoted? rest).orElse fun _ =>
        match rest with
        | '-' :: rest => (digits? rest).map fun (ds, rest) => (String.ofList ('-' :: ds), rest)
        | _ => (digits? rest).map fun (ds, rest) => (String.ofList ds, rest)
    return (step, ← after? "]" rest)
  | _ => none

/-- The further steps of a path, at most `fuel`. -/
def steps : Nat → List Char → List String × List Char
  | 0, cs => ([], cs)
  | fuel + 1, cs =>
    match step? cs with
    | none => ([], cs)
    | some (step, rest) =>
      let (more, rest) := steps fuel rest
      (step :: more, rest)

/-- A path. -/
def path? (cs : List Char) : Option (LookupTerm × List Char) := do
  let (first, rest) ← name? cs
  let (more, rest) := steps rest.length rest
  return (.lookup (first :: more), rest)

mutual

/-- A term that an operator may stand next to; terms nest at most `fuel` deep in calls. -/
def operand? (fuel : Nat) (cs : List Char) : Option (LookupTerm × List Char) :=
  ((truth? cs).map fun (v, rest) => (.literal v, rest)).orElse fun _ =>
    (call? fuel cs).orElse fun _ =>
      (path? cs).orElse fun _ => (number? cs).map fun (v, rest) => (.literal v, rest)

/-- A call, of a function by its name or of one in another file by the names of both. -/
def call? : Nat → List Char → Option (LookupTerm × List Char)
  | 0, _ => none
  | fuel + 1, cs => do
    let (name, rest) ← name? cs
    let (name, rest) :=
      match ((after? "::" (skipBlanks rest)).map skipBlanks).bind name? with
      | some (other, rest) => (name ++ "::" ++ other, rest)
      | none => (name, rest)
    let (_, rest) ← arguments? fuel (← after? "(" (skipBlanks rest))
    return (.call name, rest)

/-- Named arguments up to the closing bracket; a comma may stand after the last one. -/
def arguments? : Nat → List Char → Option (List (String × LookupTerm) × List Char)
  | 0, _ => none
  | fuel + 1, cs =>
    match skipBlanks cs with
    | ')' :: rest => some ([], rest)
    | cs => do
      let (name, rest) ← name? cs
      let rest := skipBlanks (← after? "=" (skipBlanks rest))
      let (term, rest) ←
        ((quoted? rest).map fun (s, rest) => (.literal (.str s), rest)).orElse fun _ =>
          operand? fuel rest
      match skipBlanks rest with
      | ')' :: rest => return ([(name, term)], rest)
      | ',' :: rest =>
        let (more, rest) ← arguments? fuel rest
        return ((name, term) :: more, rest)
      | _ => none

end

/-- A filter after its bar. -/
def filter? (cs : List Char) : Option (LookupFilter × List Char) := do
  let (name, rest) ← name? (skipBlanks cs)
  match (after? "(" (skipBlanks rest)).bind fun rest => arguments? rest.length rest with
  | some (arguments, rest) => return (⟨name, arguments⟩, rest)
  | none => return (⟨name, []⟩, rest)

/-- The filters from here on, at most `fuel`. -/
def filters? : Nat → List Char → Option (List LookupFilter × List Char)
  | 0, cs => some ([], cs)
  | fuel + 1, cs =>
    match skipBlanks cs with
    | '|' :: rest => do
      let (filter, rest) ← filter? rest
      let (more, rest) ← filters? fuel rest
      return (filter :: more, rest)
    | _ => some ([], cs)

/-- Whether a character is an operator of computations. -/
def isOperator (c : Char) : Bool := c = '+' || c = '-' || c = '*' || c = '/' || c = '%'

/-- Further operands after operators, at most `fuel`; a minus sign before the closing braces is no
operator. -/
def operands? : Nat → List Char → Option (List Char)
  | 0, _ => none
  | fuel + 1, cs =>
    match skipBlanks cs with
    | '-' :: '}' :: rest => some ('-' :: '}' :: rest)
    | c :: rest =>
      if isOperator c then do
        let (_, rest) ← operand? rest.length (skipBlanks rest)
        let (_, rest) ← filters? rest.length rest
        operands? fuel rest
      else some (c :: rest)
    | [] => some []

/-- **A value** and what follows it. -/
def value? (cs : List Char) : Option (LookupPiece × List Char) :=
  match quoted? cs with
  | some (s, rest) => do
    let (filters, rest) ← filters? rest.length rest
    return (.value (.literal (.str s)) filters, rest)
  | none => do
    let (term, rest) ← operand? cs.length cs
    let (filters, rest) ← filters? rest.length rest
    let after ← operands? (rest.length + 1) rest
    return (if after.length = (skipBlanks rest).length then .value term filters else .computation,
      after)

end ApiScaffold.LookupTemplate
