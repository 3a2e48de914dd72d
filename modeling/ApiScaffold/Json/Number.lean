import ApiScaffold.Number.Binary64

/-!
# Numbers in JSON text

`NumberText.ofChars?` checks the grammar of a number and takes it apart; `NumberText.value?` gives its
value. An integer that fits 64 bits is exact. Every other number is a binary64 number, read the quick
way: the digits are gathered into a 64-bit significand, digits that no longer fit are dropped (and
counted when they stand before the point), and the significand is scaled by a rounded power of ten.
The value fails only where it would leave the finite range.
-/

namespace ApiScaffold.Json

/-- **A number taken apart**: sign, digits before and after the point, and exponent, each as
written. -/
structure NumberText where
  negative : Bool
  whole : List Char
  fraction : Option (List Char)
  exponent : Option (Bool × List Char)
  deriving DecidableEq, Repr

/-- The value of an integer, or of a number with a point or an exponent. -/
inductive NumberValue where
  | int (value : Int)
  | float (value : Binary64)
  deriving DecidableEq, Repr

/-- The natural that a digit stands for. -/
def digitValue (c : Char) : Nat := c.toNat - '0'.toNat

/-- The natural that decimal digits stand for. -/
def digitsValue (ds : List Char) : Nat := ds.foldl (fun n d => 10 * n + digitValue d) 0

namespace NumberText

/-- The exponent part, if the text is one. -/
def exponentOf? : List Char → Option (Bool × List Char)
  | e :: rest =>
    if e = 'e' ∨ e = 'E' then
      let (negative, ds) :=
        match rest with
        | '+' :: ds => (false, ds)
        | '-' :: ds => (true, ds)
        | ds => (false, ds)
      if !ds.isEmpty && ds.all Char.isDigit then some (negative, ds) else none
    else none
  | [] => none

/-- The parts after the digits before the point. -/
def tail? (negative : Bool) (whole : List Char) : List Char → Option NumberText
  | [] => some ⟨negative, whole, none, none⟩
  | '.' :: rest =>
    let ds := rest.takeWhile Char.isDigit
    let after := rest.dropWhile Char.isDigit
    if ds.isEmpty then none
    else if after.isEmpty then some ⟨negative, whole, some ds, none⟩
    else (exponentOf? after).map fun e => ⟨negative, whole, some ds, some e⟩
  | after => (exponentOf? after).map fun e => ⟨negative, whole, none, some e⟩

/-- **Grammar of a number**: an optional minus sign, digits without a needless leading zero, an
optional fraction and an optional exponent. -/
def ofChars? (cs : List Char) : Option NumberText :=
  let (negative, cs) :=
    match cs with
    | '-' :: rest => (true, rest)
    | _ => (false, cs)
  let whole := cs.takeWhile Char.isDigit
  let after := cs.dropWhile Char.isDigit
  match whole with
  | [] => none
  | '0' :: _ :: _ => none
  | _ => tail? negative whole after

/-- The least number that a 64-bit significand cannot hold. -/
def significandLimit : Nat := twoTo 64

/-- Takes digits into the significand while it stays below the limit; gives the digits left. -/
def gather : Nat → List Char → Nat × List Char
  | s, [] => (s, [])
  | s, d :: ds =>
    let next := 10 * s + digitValue d
    if next < significandLimit then gather next ds else (s, d :: ds)

/-- The value of a number that has a point or an exponent, or is too large an integer. -/
def float? (n : NumberText) : Option Binary64 :=
  let (s, dropped) := gather 0 n.whole
  let (s, used) :=
    match n.fraction with
    | none => (s, 0)
    | some ds =>
      let (s, left) := gather s ds
      (s, ds.length - left.length)
  let shift : Int := (dropped.length : Int) - (used : Int)
  let magnitude : Option Binary64 :=
    match n.exponent with
    | none => Binary64.scaleByTen? s shift
    | some (negative, ds) =>
      let e := digitsValue ds
      if twoTo 31 ≤ e then
        if s ≠ 0 ∧ negative = false then none else some (Binary64.zero false)
      else Binary64.scaleByTen? s (if negative then shift - (e : Int) else shift + (e : Int))
  magnitude.map fun x => if n.negative then x.neg else x

/-- **Value of a number.** Integers from `-twoTo 63` up to `twoTo 64 - 1` are exact, except that `-0` is
the negative zero. -/
def value? (n : NumberText) : Option NumberValue :=
  match n.fraction, n.exponent with
  | none, none =>
    let k := digitsValue n.whole
    if n.negative then
      if 0 < k ∧ k ≤ twoTo 63 then some (.int (-(k : Int))) else n.float?.map .float
    else if k < significandLimit then some (.int k) else n.float?.map .float
  | _, _ => n.float?.map .float

end NumberText

end ApiScaffold.Json
