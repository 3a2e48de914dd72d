import ApiScaffold.Number.Power

/-!
# Binary64 numbers as exact values

A finite binary64 number is `± mantissa · 2 ^ exponent`. Everything here is exact `Nat` and `Int`
arithmetic, so a number can be computed with, printed and compared without opaque operations:

- `Binary64.round?` takes a quotient of naturals to the nearest number, ties to even, and fails
  exactly when the result would leave the finite range;
- `Binary64.mul?` and `Binary64.div?` are the correctly rounded operations;
- `Binary64.ofDecimal?` reads `digits · 10 ^ e` correctly rounded;
- `Binary64.scaleByTen?` reads the same value with one rounding per step, the way a reader does
  that multiplies or divides a 64-bit significand by a rounded power of ten.
-/

namespace ApiScaffold

/-- **A finite binary64 number**, `± mantissa · 2 ^ exponent`. The numbers built here have
`mantissa < 2 ^ 53` and `-1074 ≤ exponent ≤ 971`, and a mantissa below `2 ^ 52` only at the least
exponent, so equal numbers other than the two zeros have equal fields. -/
structure Binary64 where
  negative : Bool
  mantissa : Nat
  exponent : Int
  deriving DecidableEq, Repr, Inhabited

namespace Binary64

/-- The least exponent: the weight of the last place of the subnormal numbers. -/
def minExponent : Int := -1074

/-- The greatest exponent of a finite number. -/
def maxExponent : Int := 971

/-- The zero of the given sign. -/
def zero (negative : Bool) : Binary64 := ⟨negative, 0, minExponent⟩

/-- Whether the number is one of the two zeros. -/
def isZero (x : Binary64) : Bool := x.mantissa == 0

/-- The same magnitude with the other sign. -/
def neg (x : Binary64) : Binary64 := { x with negative := !x.negative }

/-- **Rounded quotient**: `num / den` to the nearest natural, a half to the even one. -/
def roundDiv (num den : Nat) : Nat :=
  let quotient := num / den
  let rest := num % den
  if 2 * rest < den then quotient
  else if den < 2 * rest then quotient + 1
  else quotient + quotient % 2

/-- The fraction `num / den · 2 ^ (-e)` as a numerator and a denominator. -/
def unscale (num den : Nat) (e : Int) : Nat × Nat :=
  if 0 ≤ e then (num, den * twoTo e.toNat) else (num * twoTo (-e).toNat, den)

/-- **Nearest number** to `num / den`, ties to even; `none` when it is not finite. The exponent is
first guessed from the binary lengths, at most one too small, and then settled by the quotient. -/
def round? (negative : Bool) (num den : Nat) : Option Binary64 :=
  if num = 0 then some (zero negative)
  else
    let guess : Int := max ((num.log2 : Int) - (den.log2 : Int) - 53) minExponent
    let (a, b) := unscale num den guess
    let e := if a / b < twoTo 53 then guess else guess + 1
    let (a, b) := unscale num den e
    let m := roundDiv a b
    let (m, e) := if m = twoTo 53 then (twoTo 52, e + 1) else (m, e)
    if e ≤ maxExponent then some ⟨negative, m, e⟩ else none

/-- The magnitude as a fraction of naturals. -/
def fraction (x : Binary64) : Nat × Nat :=
  if 0 ≤ x.exponent then (x.mantissa * twoTo x.exponent.toNat, 1)
  else (x.mantissa, twoTo (-x.exponent).toNat)

/-- The nearest number to a natural; `none` from about `2 ^ 1024` on. -/
def ofNat? (n : Nat) : Option Binary64 := round? false n 1

/-- Correctly rounded product. -/
def mul? (x y : Binary64) : Option Binary64 :=
  let (a, b) := x.fraction
  let (c, d) := y.fraction
  round? (x.negative != y.negative) (a * c) (b * d)

/-- Correctly rounded quotient; dividing by a zero has no finite result. -/
def div? (x y : Binary64) : Option Binary64 :=
  let (a, b) := x.fraction
  let (c, d) := y.fraction
  if c = 0 then none else round? (x.negative != y.negative) (a * d) (b * c)

/-- **Correctly rounded decimal**: the nearest number to `± digits · 10 ^ e`. Exponents far outside
the range are decided by the number of digits, without computing the power. -/
def ofDecimal? (negative : Bool) (digits : Nat) (e : Int) : Option Binary64 :=
  if digits = 0 then some (zero negative)
  else
    let top : Int := e + (Nat.toDigits 10 digits).length
    if 400 < top then none
    else if top < -400 then some (zero negative)
    else if 0 ≤ e then round? negative (digits * tenTo e.toNat) 1
    else round? negative digits (tenTo (-e).toNat)

/-- The nearest number to `10 ^ n`, for `n ≤ 308`. -/
def powerOfTen (n : Nat) : Binary64 := ((ofNat? (tenTo n)).getD (zero false))

/-- One rounded step of `scaleByTen?`: a power of ten up to `10 ^ 308` is applied at once, a larger
negative one by dividing by `10 ^ 308` first. -/
def scaleSteps (fuel : Nat) (x : Binary64) (e : Int) : Option Binary64 :=
  if e.natAbs ≤ 308 then
    if 0 ≤ e then x.mul? (powerOfTen e.natAbs) else x.div? (powerOfTen e.natAbs)
  else if x.isZero then some x
  else if 0 ≤ e then none
  else
    match fuel with
    | 0 => some (zero x.negative)
    | fuel + 1 => (x.div? (powerOfTen 308)).bind fun y => scaleSteps fuel y (e + 308)

/-- **Stepwise decimal**: `significand · 10 ^ e`, where the significand is rounded first and then
multiplied or divided by a rounded power of ten; `none` when the result is not finite. Five steps
take every significand below `2 ^ 64` to zero, so the step count never shows. -/
def scaleByTen? (significand : Nat) (e : Int) : Option Binary64 :=
  (ofNat? significand).bind fun x => scaleSteps 5 x e

end Binary64

end ApiScaffold
