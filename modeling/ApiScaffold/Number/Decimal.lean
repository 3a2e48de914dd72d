import ApiScaffold.Number.Binary64

/-!
# Shortest decimal text

The text of a number has the fewest digits that read back as the same number, and of those digits
the nearest. `Binary64.shortest` computes them from the interval of reals that round to the number;
`DecimalStyle` holds what a format decides about their spelling, and `DecimalStyle.render` writes
them.
-/

namespace ApiScaffold

namespace Binary64

/-- Whether `10 ^ k ≤ a / b`, as naturals. -/
def tenLe (a b : Nat) (k : Int) : Bool :=
  if 0 ≤ k then b * tenTo k.toNat ≤ a else b ≤ a * tenTo (-k).toNat

/-- **Decimal exponent**: the `k` with `10 ^ k ≤ a / b < 10 ^ (k + 1)` for a positive fraction. The
guess from the binary lengths is off by at most one. -/
def floorLog10 (a b : Nat) : Int :=
  let guess : Int := (((a.log2 : Int) - (b.log2 : Int)) * 30103).fdiv 100000
  if tenLe a b (guess + 1) then guess + 1
  else if tenLe a b guess then guess
  else guess - 1

/-- The ends of the interval of reals that round to a number, and whether the ends belong to it. The
three fractions share the denominator `den`. -/
structure RoundingInterval where
  low : Nat
  value : Nat
  high : Nat
  den : Nat
  closed : Bool

/-- **Rounding interval** of a positive number: half a unit to either side, but a quarter below a
power of two, and closed exactly when the mantissa is even. -/
def interval (x : Binary64) : RoundingInterval :=
  let narrow := x.mantissa == twoTo 52 && minExponent < x.exponent
  let value := 4 * x.mantissa
  let low := if narrow then value - 1 else value - 2
  let closed := x.mantissa % 2 == 0
  if 0 ≤ x.exponent then
    let scale := twoTo x.exponent.toNat
    ⟨low * scale, value * scale, (value + 2) * scale, 4, closed⟩
  else
    ⟨low, value, value + 2, 4 * twoTo (-x.exponent).toNat, closed⟩

/-- Whether `c · 10 ^ k` lies in the interval. -/
def RoundingInterval.contains (i : RoundingInterval) (c : Nat) (k : Int) : Bool :=
  let (point, scale) := if 0 ≤ k then (c * tenTo k.toNat * i.den, 1) else (c * i.den, tenTo (-k).toNat)
  if i.closed then i.low * scale ≤ point && point ≤ i.high * scale
  else i.low * scale < point && point < i.high * scale

/-- The value divided by `10 ^ k`, as a fraction. -/
def RoundingInterval.onGrid (i : RoundingInterval) (k : Int) : Nat × Nat :=
  if 0 ≤ k then (i.value, i.den * tenTo k.toNat) else (i.value * tenTo (-k).toNat, i.den)

/-- The point of the grid of step `10 ^ k` in the interval that is nearest to the value, if the
interval holds one of the two neighbours; an exact tie goes to the even point. -/
def RoundingInterval.nearest? (i : RoundingInterval) (k : Int) : Option Nat :=
  let (a, b) := i.onGrid k
  let below := a / b
  let rest := a % b
  match i.contains below k, i.contains (below + 1) k with
  | false, false => none
  | true, false => some below
  | false, true => some (below + 1)
  | true, true =>
    if 2 * rest < b then some below
    else if b < 2 * rest then some (below + 1)
    else some (below + below % 2)

/-- The first of the coming grids, each ten times finer, that holds a point of the interval. -/
def RoundingInterval.search (i : RoundingInterval) : Nat → Int → Nat × Int
  | 0, k => (let (a, b) := i.onGrid k; a / b, k)
  | fuel + 1, k =>
    match i.nearest? k with
    | some c => (c, k)
    | none => i.search fuel (k - 1)

/-- Moves trailing zeros of a point into the exponent. -/
def trimZeros : Nat → Nat → Int → Nat × Int
  | 0, c, k => (c, k)
  | fuel + 1, c, k => if c % 10 == 0 && c != 0 then trimZeros fuel (c / 10) (k + 1) else (c, k)

/-- **Shortest decimal**: digits and decimal exponent of the magnitude of a nonzero number, with the
fewest digits that round back to it, and the nearest of those. Seventeen digits always suffice. -/
def shortest (x : Binary64) : Nat × Int :=
  let (a, b) := x.fraction
  let i := x.interval
  let (c, k) := i.search 17 (floorLog10 a b)
  trimZeros 20 c k

end Binary64

/-- **What a format decides about the spelling of a number**: the numbers written positionally, and
how the exponent of the others looks. -/
structure DecimalStyle where
  /-- Digits before the point up to which a number is written positionally. -/
  wholeDigits : Int
  /-- Zeros after the point up to which a number below one is written positionally. -/
  leadingZeros : Int
  /-- Written between the exponent mark and a nonnegative exponent. -/
  exponentPlus : String
  /-- Written after a whole number. -/
  wholeMark : String

namespace DecimalStyle

/-- **JSON numbers**: positional below `1e16` and from `0.00001` on, always with a point or an
exponent, and a sign on every exponent. -/
def json : DecimalStyle := ⟨16, 4, "+", ".0"⟩

/-- **YAML numbers**: as JSON, but without a plus sign on the exponent. -/
def yaml : DecimalStyle := ⟨16, 4, "", ".0"⟩

/-- **Plain numbers**: always positional, and a whole number has no point. -/
def plain : DecimalStyle := ⟨400, 400, "", ""⟩

/-- The given number of zeros. -/
def zeros (n : Int) : String := String.ofList (List.replicate n.toNat '0')

/-- The text of an exponent of ten. -/
def exponentText (style : DecimalStyle) (e : Int) : String :=
  if e < 0 then "e" ++ toString e else "e" ++ style.exponentPlus ++ toString e

/-- The text of the magnitude `digits · 10 ^ k`. -/
def magnitude (style : DecimalStyle) (digits : Nat) (k : Int) : String :=
  let ds := Nat.toDigits 10 digits
  let point : Int := ds.length + k
  if 0 ≤ k && point ≤ style.wholeDigits then String.ofList ds ++ zeros k ++ style.wholeMark
  else if 0 < point && point ≤ style.wholeDigits then
    String.ofList (ds.take point.toNat) ++ "." ++ String.ofList (ds.drop point.toNat)
  else if -(style.leadingZeros) ≤ point && point ≤ 0 then
    "0." ++ zeros (-point) ++ String.ofList ds
  else
    match ds with
    | [d] => String.singleton d ++ style.exponentText (point - 1)
    | d :: rest =>
      String.singleton d ++ "." ++ String.ofList rest ++ style.exponentText (point - 1)
    | [] => "0" ++ style.wholeMark

/-- **Text of a number** in a style. -/
def render (style : DecimalStyle) (x : Binary64) : String :=
  let sign := if x.negative then "-" else ""
  if x.isZero then sign ++ "0" ++ style.wholeMark
  else
    let (digits, k) := x.shortest
    sign ++ style.magnitude digits k

end DecimalStyle

end ApiScaffold
