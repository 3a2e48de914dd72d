import ApiScaffold.Number.Binary64
import Mathlib.Algebra.Order.Field.Power
import Mathlib.Data.Rat.Cast.Order
import Mathlib.Tactic.FieldSimp
import Mathlib.Tactic.Linarith
import Mathlib.Tactic.Positivity
import Mathlib.Tactic.Ring

/-!
# Which fractions round to a number

`Binary64.round?` guesses the exponent of the nearest number from binary lengths and settles it by a quotient.
Here the exponent is said without the guess (`IsExponent`), and there is only one (`IsExponent.unique`). So a
fraction that lies close enough to a number (`RoundsTo`) is rounded to it (`round?_of_roundsTo`): half a unit of
the last place to either side, and a quarter below a power of two. What is rounded is in normal form
(`isCanonical_of_round?`).
-/

namespace ApiScaffold

theorem cast_twoTo (n : Nat) : (twoTo n : ℚ) = 2 ^ (n : ℤ) := by
  rw [zpow_natCast]
  exact Nat.cast_pow 2 n

theorem cast_tenTo (n : Nat) : (tenTo n : ℚ) = 10 ^ (n : ℤ) := by
  rw [zpow_natCast]
  exact Nat.cast_pow 10 n

/-- The two naturals that stand for a power with an exponent of either sign. -/
theorem cast_twoTo_toNat {e : Int} :
    (0 ≤ e → (twoTo e.toNat : ℚ) = 2 ^ e) ∧ (¬ 0 ≤ e → (twoTo (-e).toNat : ℚ) = (2 ^ e)⁻¹) := by
  constructor
  · intro he
    rw [cast_twoTo, Int.toNat_of_nonneg he]
  · intro he
    rw [cast_twoTo, Int.toNat_of_nonneg (by omega), zpow_neg]

theorem cast_tenTo_toNat {k : Int} :
    (0 ≤ k → (tenTo k.toNat : ℚ) = 10 ^ k) ∧ (¬ 0 ≤ k → (tenTo (-k).toNat : ℚ) = (10 ^ k)⁻¹) := by
  constructor
  · intro hk
    rw [cast_tenTo, Int.toNat_of_nonneg hk]
  · intro hk
    rw [cast_tenTo, Int.toNat_of_nonneg (by omega), zpow_neg]

namespace Binary64

variable {x : Binary64} {num den : Nat} {q : ℚ} {e e' : Int}

/-- **Binary64 numbers in their normal form**: a finite mantissa and exponent in range, and a mantissa that fills
its places unless the exponent is the least one. -/
structure IsCanonical (x : Binary64) : Prop where
  mantissa_lt : x.mantissa < twoTo 53
  minExponent_le : minExponent ≤ x.exponent
  le_maxExponent : x.exponent ≤ maxExponent
  filled : x.exponent = minExponent ∨ twoTo 52 ≤ x.mantissa

/-- Each sign has one zero. -/
theorem IsCanonical.eq_zero (hx : x.IsCanonical) (hzero : x.mantissa = 0) : x = zero x.negative := by
  have hexponent : x.exponent = minExponent := by
    rcases hx.filled with hmin | hfilled
    · exact hmin
    · rw [hzero] at hfilled
      exact absurd hfilled (by decide)
  rw [zero, ← hexponent, ← hzero]

/-! ### Quotients -/

/-- **The nearest natural** to a rational; a half goes to the even one. -/
def IsNearest (m : Nat) (r : ℚ) : Prop :=
  if m % 2 = 0 then m - 1 / 2 ≤ r ∧ r ≤ m + 1 / 2 else m - 1 / 2 < r ∧ r < m + 1 / 2

/-- A nearest natural is at most one half away. -/
theorem IsNearest.le {m : Nat} {r : ℚ} (h : IsNearest m r) : m - 1 / 2 ≤ r ∧ r ≤ m + 1 / 2 := by
  unfold IsNearest at h
  split at h
  · exact h
  · exact ⟨h.1.le, h.2.le⟩

/-- An end of the range belongs to even naturals only. -/
theorem IsNearest.even {m : Nat} {r : ℚ} (h : IsNearest m r) (hend : r = m - 1 / 2 ∨ r = m + 1 / 2) :
    m % 2 = 0 := by
  unfold IsNearest at h
  split at h
  · assumption
  · rcases hend with rfl | rfl
    · exact absurd h.1 (lt_irrefl _)
    · exact absurd h.2 (lt_irrefl _)

/-- A quotient is less than one half if twice the dividend is less than the divisor. -/
theorem div_lt_half_iff (a : Nat) {b : Nat} (hb : 0 < b) : (a : ℚ) / b < 1 / 2 ↔ 2 * a < b := by
  have hbq : (0 : ℚ) < b := by exact_mod_cast hb
  rw [div_lt_div_iff₀ hbq two_pos, one_mul, mul_comm]
  exact_mod_cast Iff.rfl

theorem half_lt_div_iff (a : Nat) {b : Nat} (hb : 0 < b) : 1 / 2 < (a : ℚ) / b ↔ b < 2 * a := by
  have hbq : (0 : ℚ) < b := by exact_mod_cast hb
  rw [div_lt_div_iff₀ two_pos hbq, one_mul, mul_comm]
  exact_mod_cast Iff.rfl

/-- **A rounded quotient** is the nearest natural, and the even one of two that are equally near. -/
theorem roundDiv_of_isNearest {m a b : Nat} (hb : 0 < b) (h : IsNearest m (a / b)) :
    roundDiv a b = m := by
  have hbq : (0 : ℚ) < b := by exact_mod_cast hb
  have hdivide : (a : ℚ) = b * (a / b : ℕ) + (a % b : ℕ) := by
    exact_mod_cast (Nat.div_add_mod a b).symm
  have hrest : (a % b : ℕ) < b := Nat.mod_lt a hb
  unfold roundDiv
  generalize a / b = k at hdivide ⊢
  generalize a % b = rest at hdivide hrest ⊢
  have hratio : (a : ℚ) / b = k + rest / b := by
    rw [hdivide]
    field_simp
  obtain ⟨hlow, hhigh⟩ := h.le
  rw [hratio] at h hlow hhigh
  have hnonneg : (0 : ℚ) ≤ rest / b := by positivity
  have hlt : (rest : ℚ) / b < 1 := by
    rw [div_lt_one hbq]
    exact_mod_cast hrest
  -- only the two naturals around the quotient are near enough
  have hm : m = k ∨ m = k + 1 := by
    have hle : (m : ℚ) < k + 2 := by linarith
    have hge : (k : ℚ) < m + 1 := by linarith
    have hle' : m < k + 2 := by exact_mod_cast hle
    have hge' : k < m + 1 := by exact_mod_cast hge
    omega
  have hhalf := div_lt_half_iff rest hb
  have hover := half_lt_div_iff rest hb
  dsimp only
  split
  · next hless =>
    have hless := hhalf.mpr hless
    rcases hm with rfl | rfl
    · rfl
    · push_cast at hlow
      linarith
  split
  · next hmore =>
    have hmore := hover.mpr hmore
    rcases hm with rfl | rfl
    · linarith
    · rfl
  · next hless hmore =>
    have htie : (rest : ℚ) / b = 1 / 2 := le_antisymm (not_lt.mp (mt hover.mp hmore)) (not_lt.mp (mt hhalf.mp hless))
    rcases hm with rfl | rfl
    · have heven := h.even (.inr (by rw [htie]))
      omega
    · have heven := h.even (.inl (by rw [htie]; push_cast; ring))
      omega

/-! ### Exponents -/

/-- **The exponent of a positive rational**: the least one by which it has at most 53 binary places. -/
structure IsExponent (q : ℚ) (e : Int) : Prop where
  minExponent_le : minExponent ≤ e
  lt : q < 2 ^ (53 : ℤ) * 2 ^ e
  filled : e = minExponent ∨ 2 ^ (52 : ℤ) * 2 ^ e ≤ q

/-- An exponent is the least that keeps the quotient below the bound, so of two neither is the larger
one. -/
theorem IsExponent.le (h : IsExponent q e) (h' : IsExponent q e') : e' ≤ e := by
  by_contra hlt
  rcases h'.filled with rfl | hfilled
  · exact hlt h.minExponent_le
  · have hstep : (2 : ℚ) ^ (53 : ℤ) * 2 ^ e ≤ 2 ^ (52 : ℤ) * 2 ^ e' := by
      rw [← zpow_add₀ two_ne_zero, ← zpow_add₀ two_ne_zero]
      exact zpow_le_zpow_right₀ one_le_two (by omega)
    exact absurd (hfilled.trans_lt h.lt) (not_lt.mpr hstep)

/-- **There is one exponent only**: it keeps the quotient within the places of a mantissa, and no
smaller one does. -/
theorem IsExponent.unique (h : IsExponent q e) (h' : IsExponent q e') : e = e' :=
  le_antisymm (h'.le h) (h.le h')

/-- **Dividing by a power of two** is multiplying one of the two naturals, whatever the sign of the
exponent. -/
theorem unscale_ratio (num : Nat) (hden : 0 < den) (e : Int) :
    0 < (unscale num den e).2 ∧
      ((unscale num den e).1 : ℚ) / (unscale num den e).2 = num / den / 2 ^ e := by
  unfold unscale
  split
  · next he =>
    refine ⟨Nat.mul_pos hden (Nat.pow_pos two_pos), ?_⟩
    push_cast
    rw [cast_twoTo_toNat.1 he, div_div]
  · next he =>
    refine ⟨hden, ?_⟩
    push_cast
    rw [cast_twoTo_toNat.2 he]
    field_simp

/-- A power of two bounds the whole part of a scaled fraction as it bounds the fraction. -/
theorem unscale_div_lt_iff (num : Nat) (hden : 0 < den) (e : Int) (places : Nat) :
    (unscale num den e).1 / (unscale num den e).2 < twoTo places ↔
      (num : ℚ) / den < 2 ^ (places : ℤ) * 2 ^ e := by
  obtain ⟨hpos, hratio⟩ := unscale_ratio num hden e
  have hposq : (0 : ℚ) < (unscale num den e).2 := by exact_mod_cast hpos
  have hunit : (0 : ℚ) < 2 ^ e := by positivity
  rw [Nat.div_lt_iff_lt_mul hpos, ← div_lt_iff₀ hunit, ← hratio, div_lt_iff₀ hposq,
    ← Nat.cast_lt (α := ℚ), Nat.cast_mul, cast_twoTo]

/-- A binary length bounds a natural between two powers. -/
theorem log2_bounds {n : Nat} (hn : n ≠ 0) :
    (2 : ℚ) ^ (n.log2 : ℤ) ≤ n ∧ (n : ℚ) < 2 ^ ((n.log2 : ℤ) + 1) := by
  constructor
  · rw [zpow_natCast]
    exact_mod_cast Nat.log2_self_le hn
  · have hlt : n < 2 ^ (n.log2 + 1) := Nat.lt_log2_self
    rw [← Nat.cast_succ, zpow_natCast]
    exact_mod_cast hlt

/-- A fraction lies between the powers of two that the lengths of its parts give. -/
theorem ratio_bounds (hnum : num ≠ 0) (hden : den ≠ 0) :
    (2 : ℚ) ^ ((num.log2 : ℤ) - den.log2 - 1) ≤ num / den ∧
      (num : ℚ) / den < 2 ^ ((num.log2 : ℤ) - den.log2 + 1) := by
  obtain ⟨hnumLow, hnumHigh⟩ := log2_bounds hnum
  obtain ⟨hdenLow, hdenHigh⟩ := log2_bounds hden
  have hdenPos : (0 : ℚ) < den := by positivity
  constructor
  · rw [le_div_iff₀ hdenPos]
    calc (2 : ℚ) ^ ((num.log2 : ℤ) - den.log2 - 1) * den
        ≤ 2 ^ ((num.log2 : ℤ) - den.log2 - 1) * 2 ^ ((den.log2 : ℤ) + 1) := by gcongr
      _ = 2 ^ (num.log2 : ℤ) := by
          rw [← zpow_add₀ two_ne_zero]
          congr 1
          ring
      _ ≤ num := hnumLow
  · rw [div_lt_iff₀ hdenPos]
    calc (num : ℚ) < 2 ^ ((num.log2 : ℤ) + 1) := hnumHigh
      _ = 2 ^ ((num.log2 : ℤ) - den.log2 + 1) * 2 ^ (den.log2 : ℤ) := by
          rw [← zpow_add₀ two_ne_zero]
          congr 1
          ring
      _ ≤ 2 ^ ((num.log2 : ℤ) - den.log2 + 1) * den := by gcongr

/-- The exponent guessed from the lengths of a fraction; it may be too small by one. -/
def guess (num den : Nat) : Int := max ((num.log2 : Int) - (den.log2 : Int) - 53) minExponent

/-- The exponent settled by the quotient. -/
def settledExponent (num den : Nat) : Int :=
  if (unscale num den (guess num den)).1 / (unscale num den (guess num den)).2 < twoTo 53 then
    guess num den
  else guess num den + 1

/-- **The settled exponent is the exponent** of the fraction. Binary lengths bound the quotient between
two powers that are two places apart, so the guess is right or too small by one. -/
theorem isExponent_settledExponent (hnum : num ≠ 0) (hden : den ≠ 0) :
    IsExponent (num / den) (settledExponent num den) := by
  obtain ⟨hlow, hhigh⟩ := ratio_bounds hnum hden
  have hguess : minExponent ≤ guess num den := le_max_right ..
  have hlength : (num.log2 : Int) - den.log2 - 53 ≤ guess num den := le_max_left ..
  have hquotient := unscale_div_lt_iff num (Nat.pos_of_ne_zero hden) (guess num den) 53
  unfold settledExponent
  split
  · next hfits =>
    refine ⟨hguess, hquotient.mp hfits, ?_⟩
    rcases max_choice ((num.log2 : Int) - (den.log2 : Int) - 53) minExponent with hmax | hmax
    · right
      refine le_trans (le_of_eq ?_) hlow
      rw [← zpow_add₀ two_ne_zero, guess, hmax]
      congr 1
      ring
    · exact .inl hmax
  · next hover =>
    have hle := not_lt.mp (mt hquotient.mpr hover)
    refine ⟨by omega, ?_, ?_⟩
    · refine hhigh.trans_le ?_
      rw [← zpow_add₀ two_ne_zero]
      exact zpow_le_zpow_right₀ one_le_two (by omega)
    · right
      refine le_trans (le_of_eq ?_) hle
      rw [← zpow_add₀ two_ne_zero, ← zpow_add₀ two_ne_zero]
      congr 1
      ring

/-! ### Rounding -/

/-- The number of a mantissa and an exponent, where rounding up may have filled the mantissa. -/
def settle? (negative : Bool) (m : Nat) (e : Int) : Option Binary64 :=
  let (m, e) := if m = twoTo 53 then (twoTo 52, e + 1) else (m, e)
  if e ≤ maxExponent then some ⟨negative, m, e⟩ else none

/-- **Rounding without the guess**: what is rounded is the fraction in units of its exponent, however
that exponent was found. -/
theorem round?_eq_settle? (negative : Bool) (hnum : num ≠ 0) (hden : den ≠ 0) :
    ∃ e, IsExponent (num / den) e ∧
      round? negative num den =
        settle? negative (roundDiv (unscale num den e).1 (unscale num den e).2) e := by
  refine ⟨settledExponent num den, isExponent_settledExponent hnum hden, ?_⟩
  rw [round?, if_neg hnum]
  rfl

/-- **Rationals that round to a number**: they are nearest to its mantissa, in units of its last place. The
next smaller number is closer below a power of two. -/
structure RoundsTo (q : ℚ) (x : Binary64) : Prop where
  nearest : IsNearest x.mantissa (q / 2 ^ x.exponent)
  narrow : x.mantissa = twoTo 52 → minExponent < x.exponent → x.mantissa - 1 / 4 ≤ q / 2 ^ x.exponent

/-- A fraction of a known exponent is rounded to the natural that is nearest in units of its last place. -/
theorem round?_of_isNearest {negative : Bool} {m : Nat} (hnum : num ≠ 0) (hden : den ≠ 0)
    (he : IsExponent (num / den) e) (hm : IsNearest m (num / den / 2 ^ e)) :
    round? negative num den = settle? negative m e := by
  obtain ⟨e', he', hround⟩ := round?_eq_settle? negative hnum hden
  obtain rfl := he.unique he'
  obtain ⟨hpos, hratio⟩ := unscale_ratio num (Nat.pos_of_ne_zero hden) e
  rw [hround, roundDiv_of_isNearest hpos (hratio ▸ hm)]

/-- **Below a power of two** the numbers have one more place. What is within a quarter of a unit of the power rounds up
to it, which is half a unit of the smaller numbers. -/
theorem round?_below_power (negative : Bool) (hnum : num ≠ 0) (hden : den ≠ 0) (hmin : minExponent < e)
    (hmax : e ≤ maxExponent) (hlow : 2 ^ (52 : ℤ) - 1 / 4 ≤ (num : ℚ) / den / 2 ^ e)
    (hhigh : (num : ℚ) / den / 2 ^ e < 2 ^ (52 : ℤ)) :
    round? negative num den = some ⟨negative, twoTo 52, e⟩ := by
  have hunit : (0 : ℚ) < 2 ^ (e - 1) := by positivity
  have hhalf : (2 : ℚ) ^ e = 2 * 2 ^ (e - 1) := by
    rw [zpow_sub_one₀ two_ne_zero]
    ring
  have hdouble : (num : ℚ) / den / 2 ^ (e - 1) = 2 * (num / den / 2 ^ e) := by
    rw [hhalf]
    field_simp
  have htwice : (2 : ℚ) ^ (53 : ℤ) = 2 * 2 ^ (52 : ℤ) := by norm_num
  have hexponent : IsExponent ((num : ℚ) / den) (e - 1) := by
    refine ⟨by omega, ?_, .inr ?_⟩
    · rw [← div_lt_iff₀ hunit, hdouble]
      linarith
    · rw [← le_div_iff₀ hunit, hdouble]
      linarith
  have hnearest : IsNearest (twoTo 53) ((num : ℚ) / den / 2 ^ (e - 1)) := by
    have heven : twoTo 53 % 2 = 0 := by decide
    have htop : (twoTo 53 : ℚ) = 2 ^ (53 : ℤ) := cast_twoTo 53
    rw [IsNearest, if_pos heven, hdouble, htop]
    constructor
    · linarith
    · linarith
  rw [round?_of_isNearest hnum hden hexponent hnearest, settle?, if_pos rfl]
  dsimp only
  rw [sub_add_cancel, if_pos hmax]

/-- **What rounds to a number is rounded to it.** Below a power of two the exponent of the fraction is
one less than that of the number, which is why that case is apart. -/
theorem round?_of_roundsTo (hx : x.IsCanonical) (hpos : x.mantissa ≠ 0) (hden : den ≠ 0)
    (h : RoundsTo (num / den) x) : round? x.negative num den = some x := by
  have hunit : (0 : ℚ) < 2 ^ x.exponent := by positivity
  obtain ⟨hlow, hhigh⟩ := h.nearest.le
  have hone : (1 : ℚ) ≤ x.mantissa := by exact_mod_cast Nat.one_le_iff_ne_zero.mpr hpos
  have hnum : num ≠ 0 := by
    rintro rfl
    rw [Nat.cast_zero, zero_div, zero_div] at hlow
    linarith
  by_cases hfilled : x.exponent = minExponent ∨ 2 ^ (52 : ℤ) * 2 ^ x.exponent ≤ (num : ℚ) / den
  · have hfits : (x.mantissa : ℚ) + 1 ≤ 2 ^ (53 : ℤ) := by
      have htop : (twoTo 53 : ℚ) = 2 ^ (53 : ℤ) := cast_twoTo 53
      rw [← htop]
      exact_mod_cast hx.mantissa_lt
    have hexponent : IsExponent ((num : ℚ) / den) x.exponent := by
      refine ⟨hx.minExponent_le, ?_, hfilled⟩
      rw [← div_lt_iff₀ hunit]
      linarith
    rw [round?_of_isNearest hnum hden hexponent h.nearest, settle?, if_neg hx.mantissa_lt.ne]
    exact if_pos hx.le_maxExponent
  · -- the fraction lies below the power of two that the number is
    obtain ⟨hleast, hbelow⟩ := not_or.mp hfilled
    have hfirst : (twoTo 52 : ℚ) = 2 ^ (52 : ℤ) := cast_twoTo 52
    have hbelow : (num : ℚ) / den / 2 ^ x.exponent < 2 ^ (52 : ℤ) := by
      rw [div_lt_iff₀ hunit]
      exact not_le.mp hbelow
    have hpower : x.mantissa = twoTo 52 := by
      have hle := hx.filled.resolve_left hleast
      by_contra hne
      have hmore : twoTo 52 + 1 ≤ x.mantissa := by omega
      have hmore : (2 : ℚ) ^ (52 : ℤ) + 1 ≤ x.mantissa := by
        rw [← hfirst]
        exact_mod_cast hmore
      linarith
    have hmin : minExponent < x.exponent := lt_of_le_of_ne hx.minExponent_le (Ne.symm hleast)
    -- so the fraction is at most a quarter of a unit below the power
    have hquarter := h.narrow hpower hmin
    rw [hpower, hfirst] at hquarter
    rw [round?_below_power x.negative hnum hden hmin hx.le_maxExponent hquarter hbelow, ← hpower]

/-! ### Magnitudes -/

/-- **A number as a fraction** of two naturals is its mantissa times a power of two. -/
theorem fraction_ratio (x : Binary64) :
    0 < x.fraction.2 ∧ (x.fraction.1 : ℚ) / x.fraction.2 = x.mantissa * 2 ^ x.exponent := by
  rw [fraction]
  split
  · next hexponent =>
    refine ⟨one_pos, ?_⟩
    push_cast
    rw [cast_twoTo_toNat.1 hexponent, div_one]
  · next hexponent =>
    refine ⟨Nat.pow_pos two_pos, ?_⟩
    rw [cast_twoTo_toNat.2 hexponent, div_inv_eq_mul]

/-! ### Normal forms -/

/-- Zero has the least exponent and an empty mantissa. -/
theorem isCanonical_zero (negative : Bool) : (zero negative).IsCanonical := by
  refine ⟨?_, le_rfl, ?_, .inl rfl⟩
  · exact Nat.pow_pos two_pos
  · change minExponent ≤ maxExponent
    decide

/-- The sign has no part in the normal form. -/
theorem IsCanonical.neg (hx : x.IsCanonical) : x.neg.IsCanonical :=
  ⟨hx.mantissa_lt, hx.minExponent_le, hx.le_maxExponent, hx.filled⟩

/-- A quotient is rounded to its whole part or to the next natural. -/
theorem roundDiv_bounds (a b : Nat) : a / b ≤ roundDiv a b ∧ roundDiv a b ≤ a / b + 1 := by
  have hparity : a / b % 2 ≤ 1 := by omega
  unfold roundDiv
  dsimp only
  split
  · omega
  split
  · omega
  · omega

/-- A fraction is rounded to a mantissa that fills its places, or to the next power of two. -/
theorem roundDiv_of_isExponent (hden : den ≠ 0) (he : IsExponent (num / den) e) :
    roundDiv (unscale num den e).1 (unscale num den e).2 ≤ twoTo 53 ∧
      (e = minExponent ∨ twoTo 52 ≤ roundDiv (unscale num den e).1 (unscale num den e).2) := by
  have hquotient := unscale_div_lt_iff num (Nat.pos_of_ne_zero hden) e
  obtain ⟨hlow, hhigh⟩ := roundDiv_bounds (unscale num den e).1 (unscale num den e).2
  constructor
  · have hfits := (hquotient 53).mpr he.lt
    omega
  · rcases he.filled with hmin | hfilled
    · exact .inl hmin
    · exact .inr ((not_lt.mp (mt (hquotient 52).mp (not_lt.mpr hfilled))).trans hlow)

/-- What is settled is in normal form if the exponent left enough places filled. A mantissa that
rounding carried one place up is halved, and fills them again. -/
theorem isCanonical_of_settle? {negative : Bool} {m : Nat} (hmin : minExponent ≤ e) (hle : m ≤ twoTo 53)
    (hfilled : e = minExponent ∨ twoTo 52 ≤ m) (h : settle? negative m e = some x) : x.IsCanonical := by
  unfold settle? at h
  by_cases hfull : m = twoTo 53
  · rw [if_pos hfull] at h
    obtain ⟨hmax, hx⟩ := Option.ite_none_right_eq_some.mp h
    obtain rfl := Option.some.inj hx
    exact ⟨Nat.pow_lt_pow_right one_lt_two (by decide), Int.le_add_one hmin, hmax, .inr le_rfl⟩
  · rw [if_neg hfull] at h
    obtain ⟨hmax, hx⟩ := Option.ite_none_right_eq_some.mp h
    obtain rfl := Option.some.inj hx
    exact ⟨lt_of_le_of_ne hle hfull, hmin, hmax, hfilled⟩

/-- **Rounding gives normal forms**, if it gives a number at all: the exponent was chosen so that the
mantissa fits, and as small as it may be. -/
theorem isCanonical_of_round? {negative : Bool} (hden : den ≠ 0) (h : round? negative num den = some x) :
    x.IsCanonical := by
  by_cases hnum : num = 0
  · rw [round?, if_pos hnum] at h
    rw [← Option.some.inj h]
    exact isCanonical_zero negative
  · obtain ⟨e, he, hround⟩ := round?_eq_settle? negative hnum hden
    obtain ⟨hle, hfilled⟩ := roundDiv_of_isExponent hden he
    rw [hround] at h
    exact isCanonical_of_settle? he.minExponent_le hle hfilled h

/-- A decimal is read in normal form. -/
theorem isCanonical_of_ofDecimal? {negative : Bool} {digits : Nat} {k : Int}
    (h : ofDecimal? negative digits k = some x) : x.IsCanonical := by
  rw [ofDecimal?] at h
  split at h
  · rw [← Option.some.inj h]
    exact isCanonical_zero negative
  dsimp only at h
  split at h
  · cases h
  split at h
  · rw [← Option.some.inj h]
    exact isCanonical_zero negative
  split at h
  · exact isCanonical_of_round? one_ne_zero h
  · exact isCanonical_of_round? (Nat.pow_pos (by decide)).ne' h

/-- A product is rounded once more. -/
theorem isCanonical_of_mul? {y z : Binary64} (h : x.mul? y = some z) : z.IsCanonical := by
  have hden := Nat.mul_pos (fraction_ratio x).1 (fraction_ratio y).1
  exact isCanonical_of_round? hden.ne' h

theorem isCanonical_of_div? {y z : Binary64} (h : x.div? y = some z) : z.IsCanonical := by
  rw [div?] at h
  dsimp only at h
  split at h
  · cases h
  · next hnum =>
    exact isCanonical_of_round? (Nat.mul_ne_zero (fraction_ratio x).1.ne' hnum) h

/-- Scaling by powers of ten takes a product or a quotient at each step, so what is in normal form stays
so. -/
theorem isCanonical_of_scaleSteps {fuel : Nat} {y : Binary64} (hx : x.IsCanonical)
    (h : scaleSteps fuel x e = some y) : y.IsCanonical := by
  induction fuel using Nat.strongRecOn generalizing x e with
  | _ fuel ih =>
    unfold scaleSteps at h
    split at h
    · split at h
      · exact isCanonical_of_mul? h
      · exact isCanonical_of_div? h
    split at h
    · rwa [← Option.some.inj h]
    split at h
    · cases h
    split at h
    · rw [← Option.some.inj h]
      exact isCanonical_zero _
    · next fuel =>
      obtain ⟨z, hz, hsteps⟩ := Option.bind_eq_some_iff.mp h
      exact ih fuel (Nat.lt_succ_self fuel) (isCanonical_of_div? hz) hsteps

/-- **A significand that is scaled by a power of ten**, as readers of JSON do, is rounded at each step.
-/
theorem isCanonical_of_scaleByTen? {significand : Nat} (h : scaleByTen? significand e = some x) :
    x.IsCanonical := by
  obtain ⟨y, hy, hsteps⟩ := Option.bind_eq_some_iff.mp h
  exact isCanonical_of_scaleSteps (isCanonical_of_round? one_ne_zero hy) hsteps

end Binary64

end ApiScaffold
