import ApiScaffold.Number.Decimal
import ApiScaffold.Proofs.Number.Rounding

/-!
# The shortest decimal reads back

`Binary64.shortest` searches one decimal grid after the other for a point of the interval of reals that round to
a number. It finds one (`holds_shortest`): the value lies inside the interval, so a grid with steps smaller than
the interval has a point next to the value in it, and the seventeenth grid is as fine as that. What is found is
rounded back to the number (`ofDecimal?_of_holds`).
-/

namespace ApiScaffold.Binary64

variable {x : Binary64} {q : ℚ} {k : Int}

/-! ### Intervals -/

namespace RoundingInterval

variable {i : RoundingInterval}

/-- **Rationals of an interval.** -/
def Holds (i : RoundingInterval) (q : ℚ) : Prop :=
  if i.closed then (i.low : ℚ) / i.den ≤ q ∧ q ≤ i.high / i.den
  else (i.low : ℚ) / i.den < q ∧ q < i.high / i.den

theorem Holds.le (h : i.Holds q) : (i.low : ℚ) / i.den ≤ q ∧ q ≤ i.high / i.den := by
  unfold Holds at h
  split at h
  · exact h
  · exact ⟨h.1.le, h.2.le⟩

theorem contains_iff (hden : 0 < i.den) (c : Nat) (k : Int) :
    i.contains c k = true ↔ i.Holds (c * 10 ^ k) := by
  have hdenq : (0 : ℚ) < i.den := by exact_mod_cast hden
  -- both sides compare the ends with the point, on a scale on which all of them are naturals
  have hscaled (point scale : Nat) (hscale : 0 < scale)
      (hpoint : (point : ℚ) = c * 10 ^ k * (i.den * scale)) :
      (if i.closed then decide (i.low * scale ≤ point) && decide (point ≤ i.high * scale)
        else decide (i.low * scale < point) && decide (point < i.high * scale)) = true ↔
        i.Holds (c * 10 ^ k) := by
    have hscaleq : (0 : ℚ) < scale := by exact_mod_cast hscale
    have hlow : (i.low * scale ≤ point ↔ (i.low : ℚ) / i.den ≤ c * 10 ^ k) ∧
        (i.low * scale < point ↔ (i.low : ℚ) / i.den < c * 10 ^ k) := by
      rw [div_le_iff₀ hdenq, div_lt_iff₀ hdenq, ← Nat.cast_le (α := ℚ), ← Nat.cast_lt (α := ℚ), hpoint,
        Nat.cast_mul, ← mul_assoc, mul_le_mul_iff_left₀ hscaleq, mul_lt_mul_iff_left₀ hscaleq]
      exact ⟨Iff.rfl, Iff.rfl⟩
    have hhigh : (point ≤ i.high * scale ↔ c * 10 ^ k ≤ (i.high : ℚ) / i.den) ∧
        (point < i.high * scale ↔ c * 10 ^ k < (i.high : ℚ) / i.den) := by
      rw [le_div_iff₀ hdenq, lt_div_iff₀ hdenq, ← Nat.cast_le (α := ℚ), ← Nat.cast_lt (α := ℚ), hpoint,
        Nat.cast_mul, ← mul_assoc, mul_le_mul_iff_left₀ hscaleq, mul_lt_mul_iff_left₀ hscaleq]
      exact ⟨Iff.rfl, Iff.rfl⟩
    unfold Holds
    split
    · rw [Bool.and_eq_true, decide_eq_true_iff, decide_eq_true_iff, hlow.1, hhigh.1]
    · rw [Bool.and_eq_true, decide_eq_true_iff, decide_eq_true_iff, hlow.2, hhigh.2]
  rw [contains]
  by_cases hk : 0 ≤ k
  · rw [if_pos hk]
    refine hscaled _ 1 one_pos ?_
    push_cast
    rw [cast_tenTo_toNat.1 hk]
    ring
  · rw [if_neg hk]
    refine hscaled _ _ (Nat.pow_pos (by decide)) ?_
    push_cast
    rw [cast_tenTo_toNat.2 hk]
    field_simp

/-! ### The search -/

theorem onGrid_ratio (hden : 0 < i.den) (k : Int) :
    0 < (i.onGrid k).2 ∧ ((i.onGrid k).1 : ℚ) / (i.onGrid k).2 = i.value / i.den / 10 ^ k := by
  unfold onGrid
  split
  · next hk =>
    refine ⟨Nat.mul_pos hden (Nat.pow_pos (by decide)), ?_⟩
    push_cast
    rw [cast_tenTo_toNat.1 hk, div_div]
  · next hk =>
    refine ⟨hden, ?_⟩
    push_cast
    rw [cast_tenTo_toNat.2 hk]
    field_simp

/-- The point of a grid below the value. -/
def below (i : RoundingInterval) (k : Int) : Nat := (i.onGrid k).1 / (i.onGrid k).2

/-- The value lies between two neighbours on a grid. -/
theorem below_bounds (hden : 0 < i.den) (k : Int) :
    (i.below k : ℚ) * 10 ^ k ≤ i.value / i.den ∧ (i.value : ℚ) / i.den < (i.below k + 1 : ℕ) * 10 ^ k := by
  obtain ⟨hpos, hratio⟩ := onGrid_ratio hden k
  have hposq : (0 : ℚ) < (i.onGrid k).2 := by exact_mod_cast hpos
  have hstep : (0 : ℚ) < 10 ^ k := by positivity
  constructor
  · rw [← le_div_iff₀ hstep, ← hratio, le_div_iff₀ hposq]
    exact_mod_cast Nat.div_mul_le_self _ _
  · rw [← div_lt_iff₀ hstep, ← hratio, div_lt_iff₀ hposq]
    exact_mod_cast Nat.lt_mul_of_div_lt (Nat.lt_succ_self _) hpos

/-- **The nearest point** of a grid is one of the two neighbours that the interval holds, if it holds any. -/
theorem nearest?_cases (i : RoundingInterval) (k : Int) :
    (∃ c, i.nearest? k = some c ∧ i.contains c k = true) ∨
      i.nearest? k = none ∧ i.contains (i.below k) k = false ∧ i.contains (i.below k + 1) k = false := by
  rw [nearest?, below]
  rcases i.onGrid k with ⟨a, b⟩
  dsimp only
  cases hlow : i.contains (a / b) k with
  | false =>
    cases hhigh : i.contains (a / b + 1) k with
    | false => exact .inr ⟨rfl, rfl, rfl⟩
    | true => exact .inl ⟨_, rfl, hhigh⟩
  | true =>
    cases hhigh : i.contains (a / b + 1) k with
    | false => exact .inl ⟨_, rfl, hlow⟩
    | true =>
      dsimp only
      split
      · exact .inl ⟨_, rfl, hlow⟩
      split
      · exact .inl ⟨_, rfl, hhigh⟩
      -- an even point is its own even neighbour
      · refine .inl ⟨_, rfl, ?_⟩
        rcases Nat.mod_two_eq_zero_or_one (a / b) with heven | hodd
        · rw [heven]
          exact hlow
        · rw [hodd]
          exact hhigh

/-- **A grid that is finer than the interval** has a point in it, next to the value. -/
theorem nearest?_ne_none (hden : 0 < i.den) (hlow : (i.low : ℚ) / i.den < i.value / i.den)
    (hhigh : (i.value : ℚ) / i.den < i.high / i.den) (hfine : (10 : ℚ) ^ k < i.high / i.den - i.low / i.den) :
    i.nearest? k ≠ none := by
  intro hnone
  rcases i.nearest?_cases k with ⟨c, hsome, -⟩ | ⟨-, hbelow, habove⟩
  · rw [hnone] at hsome
    cases hsome
  obtain ⟨hle, hlt⟩ := below_bounds hden k
  have hout (c : Nat) (hc : i.contains c k = false) : ¬ i.Holds (c * 10 ^ k) := by
    rw [← contains_iff hden, hc]
    exact Bool.false_ne_true
  -- the neighbour below is not above the low end, and the one above not below the high end
  have hbelow : (i.below k : ℚ) * 10 ^ k ≤ i.low / i.den := by
    by_contra hover
    have hover := not_le.mp hover
    refine hout _ hbelow ?_
    unfold Holds
    split
    · exact ⟨hover.le, (hle.trans_lt hhigh).le⟩
    · exact ⟨hover, hle.trans_lt hhigh⟩
  have habove : (i.high : ℚ) / i.den ≤ (i.below k + 1 : ℕ) * 10 ^ k := by
    by_contra hunder
    have hunder := not_le.mp hunder
    refine hout _ habove ?_
    unfold Holds
    split
    · exact ⟨(hlow.trans hlt).le, hunder.le⟩
    · exact ⟨hlow.trans hlt, hunder⟩
  push_cast at habove
  linarith

/-- **The search finds a point of the interval**, if one of its grids has one. -/
theorem contains_search {fuel j : Nat} (hj : j < fuel) (h : i.nearest? (k - j) ≠ none) :
    i.contains (i.search fuel k).1 (i.search fuel k).2 = true := by
  induction fuel generalizing j k with
  | zero => omega
  | succ fuel ih =>
    rw [search]
    rcases i.nearest?_cases k with ⟨c, hsome, hc⟩ | ⟨hnone, -⟩
    · rw [hsome]
      exact hc
    · rw [hnone]
      cases j with
      | zero =>
        rw [Nat.cast_zero, sub_zero] at h
        exact absurd hnone h
      | succ j =>
        refine ih (j := j) (by omega) ?_
        have hsame : k - 1 - (j : ℤ) = k - ((j + 1 : ℕ) : ℤ) := by
          push_cast
          ring
        rwa [hsame]

end RoundingInterval

/-! ### The interval of a number -/

/-- How far the interval of a number reaches below it, in units of its last place. -/
def gap (x : Binary64) : ℚ :=
  if x.mantissa = twoTo 52 ∧ minExponent < x.exponent then 1 / 4 else 1 / 2

theorem gap_bounds (x : Binary64) : 0 < x.gap ∧ x.gap ≤ 1 / 2 := by
  unfold gap
  split
  · norm_num
  · norm_num

/-- **The interval of a number**, in units of its last place. -/
theorem interval_ratio (hpos : x.mantissa ≠ 0) :
    0 < x.interval.den ∧
      (x.interval.value : ℚ) / x.interval.den = x.mantissa * 2 ^ x.exponent ∧
      (x.interval.low : ℚ) / x.interval.den = (x.mantissa - x.gap) * 2 ^ x.exponent ∧
      (x.interval.high : ℚ) / x.interval.den = (x.mantissa + 1 / 2) * 2 ^ x.exponent := by
  have hlow : ((if x.mantissa == twoTo 52 && minExponent < x.exponent then 4 * x.mantissa - 1
      else 4 * x.mantissa - 2 : ℕ) : ℚ) = 4 * (x.mantissa - x.gap) := by
    have hone : 1 ≤ 4 * x.mantissa := by omega
    have htwo : 2 ≤ 4 * x.mantissa := by omega
    simp only [Bool.and_eq_true, beq_iff_eq, decide_eq_true_eq, gap]
    split
    · push_cast [hone]
      ring
    · push_cast [htwo]
      ring
  rw [interval]
  dsimp only
  -- a negative exponent goes into the denominator, any other into the three numerators
  by_cases hexponent : 0 ≤ x.exponent
  · rw [if_pos hexponent]
    have hscale := cast_twoTo_toNat.1 hexponent
    refine ⟨Nat.zero_lt_succ _, ?_, ?_, ?_⟩
    · push_cast
      rw [hscale]
      ring
    · rw [Nat.cast_mul, hlow, hscale]
      push_cast
      ring
    · push_cast
      rw [hscale]
      ring
  · rw [if_neg hexponent]
    have hscale := cast_twoTo_toNat.2 hexponent
    refine ⟨Nat.mul_pos (by decide) (Nat.pow_pos two_pos), ?_, ?_, ?_⟩
    · push_cast
      rw [hscale]
      field_simp
    · rw [hlow]
      push_cast
      rw [hscale]
      field_simp
    · push_cast
      rw [hscale]
      field_simp
      ring

theorem interval_closed_iff (x : Binary64) : x.interval.closed = true ↔ x.mantissa % 2 = 0 := by
  have hclosed : x.interval.closed = (x.mantissa % 2 == 0) := by
    rw [interval]
    dsimp only
    split <;> rfl
  rw [hclosed, beq_iff_eq]

/-- **The rationals of the interval** of a number round to it. Its ends belong to it only where the
mantissa is even, as ties go to even numbers. -/
theorem roundsTo_of_holds (hpos : x.mantissa ≠ 0) (h : x.interval.Holds q) : RoundsTo q x := by
  obtain ⟨-, -, hlow, hhigh⟩ := interval_ratio hpos
  have hunit : (0 : ℚ) < 2 ^ x.exponent := by positivity
  have hgap := (gap_bounds x).2
  refine ⟨?_, ?_⟩
  · unfold RoundingInterval.Holds at h
    rw [hlow, hhigh, ← le_div_iff₀ hunit, ← div_le_iff₀ hunit, ← lt_div_iff₀ hunit,
      ← div_lt_iff₀ hunit] at h
    unfold IsNearest
    split at h
    · next hclosed =>
      rw [if_pos ((interval_closed_iff x).mp hclosed)]
      exact ⟨by linarith, h.2⟩
    · next hopen =>
      rw [if_neg (mt (interval_closed_iff x).mpr hopen)]
      exact ⟨by linarith, h.2⟩
  · intro hpower hmin
    have hquarter : x.gap = 1 / 4 := if_pos ⟨hpower, hmin⟩
    have hle := h.le.1
    rwa [hlow, ← le_div_iff₀ hunit, hquarter] at hle

/-! ### The first grid -/

theorem tenLe_iff {a b : Nat} (hb : 0 < b) (k : Int) : tenLe a b k = true ↔ (10 : ℚ) ^ k ≤ a / b := by
  have hbq : (0 : ℚ) < b := by exact_mod_cast hb
  rw [le_div_iff₀ hbq, tenLe]
  by_cases hk : 0 ≤ k
  · rw [if_pos hk, decide_eq_true_iff, ← Nat.cast_le (α := ℚ), Nat.cast_mul, cast_tenTo_toNat.1 hk, mul_comm]
  · have hten : (0 : ℚ) < 10 ^ k := by positivity
    rw [if_neg hk, decide_eq_true_iff, ← Nat.cast_le (α := ℚ), Nat.cast_mul, cast_tenTo_toNat.2 hk,
      le_mul_inv_iff₀ hten, mul_comm]

/-- The rational that guesses a decimal length from a binary one is close enough for all lengths of numbers. -/
theorem ten_pow_length_le :
    ∀ n < 1100, 10 ^ (n * 30103 / 100000) ≤ 2 ^ (n + 1) ∧ 2 ^ n ≤ 10 ^ ((n * 30103 + 99999) / 100000) := by
  decide +kernel

theorem ten_zpow_length_le {d : Int} (hlow : -1100 < d) (hhigh : d < 1100) :
    (10 : ℚ) ^ ((d * 30103).fdiv 100000) ≤ 2 ^ (d + 1) := by
  rw [Int.fdiv_eq_ediv_of_nonneg _ (by decide)]
  rcases le_total 0 d with hnonneg | hneg
  · obtain ⟨n, rfl⟩ := Int.eq_ofNat_of_zero_le hnonneg
    have hexponent : (n : ℤ) * 30103 / 100000 = (n * 30103 / 100000 : ℕ) := by omega
    rw [hexponent, zpow_natCast, ← Nat.cast_succ, zpow_natCast]
    exact_mod_cast (ten_pow_length_le n (by omega)).1
  · obtain ⟨n, hn⟩ := Int.eq_ofNat_of_zero_le (show 0 ≤ -d by omega)
    obtain rfl : d = -(n : ℤ) := by omega
    have hexponent : -(n : ℤ) * 30103 / 100000 = -((n * 30103 + 99999) / 100000 : ℕ) := by omega
    have hpower : (2 : ℚ) ^ n ≤ 10 ^ ((n * 30103 + 99999) / 100000) := by
      exact_mod_cast (ten_pow_length_le n (by omega)).2
    calc (10 : ℚ) ^ (-(n : ℤ) * 30103 / 100000)
        = (10 ^ ((n * 30103 + 99999) / 100000))⁻¹ := by rw [hexponent, zpow_neg, zpow_natCast]
      _ ≤ (2 ^ n)⁻¹ := inv_anti₀ (by positivity) hpower
      _ = 2 ^ (-(n : ℤ)) := by rw [zpow_neg, zpow_natCast]
      _ ≤ 2 ^ (-(n : ℤ) + 1) := zpow_le_zpow_right₀ one_le_two (by omega)

/-- **The first grid is no coarser than the value**, for fractions of not too many binary places. -/
theorem ten_zpow_floorLog10_le {a b : Nat} (ha : a ≠ 0) (hb : b ≠ 0)
    (hlow : -1100 < (a.log2 : Int) - b.log2) (hhigh : (a.log2 : Int) - b.log2 < 1100) :
    (10 : ℚ) ^ floorLog10 a b ≤ a / b := by
  have hbpos := Nat.pos_of_ne_zero hb
  rw [floorLog10]
  split
  · next h => exact (tenLe_iff hbpos _).mp h
  split
  · next h => exact (tenLe_iff hbpos _).mp h
  · have hguess := ten_zpow_length_le hlow hhigh
    have hratio := (ratio_bounds ha hb).1
    have hten : (10 : ℚ) ^ (((a.log2 : Int) - b.log2) * 30103).fdiv 100000 =
        10 * 10 ^ ((((a.log2 : Int) - b.log2) * 30103).fdiv 100000 - 1) := by
      rw [zpow_sub_one₀ (by norm_num)]
      ring
    have htwo : (2 : ℚ) ^ ((a.log2 : Int) - b.log2 + 1) = 4 * 2 ^ ((a.log2 : Int) - b.log2 - 1) := by
      rw [zpow_add_one₀ two_ne_zero, zpow_sub_one₀ two_ne_zero]
      ring
    have hpos : (0 : ℚ) < 2 ^ ((a.log2 : Int) - b.log2 - 1) := by positivity
    rw [hten, htwo] at hguess
    linarith

/-! ### The shortest decimal -/

/-- **The magnitudes of numbers** are in a range of powers of two. -/
theorem magnitude_bounds (hx : x.IsCanonical) (hpos : x.mantissa ≠ 0) :
    (2 : ℚ) ^ (-1074 : ℤ) ≤ x.mantissa * 2 ^ x.exponent ∧ x.mantissa * (2 : ℚ) ^ x.exponent < 2 ^ (1024 : ℤ) := by
  have hone : (1 : ℚ) ≤ x.mantissa := by exact_mod_cast Nat.one_le_iff_ne_zero.mpr hpos
  have hlt : (x.mantissa : ℚ) < 2 ^ (53 : ℤ) := by
    rw [← Nat.cast_ofNat (n := 53), ← cast_twoTo]
    exact_mod_cast hx.mantissa_lt
  have hunit : (0 : ℚ) < 2 ^ x.exponent := by positivity
  constructor
  · calc (2 : ℚ) ^ (-1074 : ℤ) ≤ 2 ^ x.exponent := zpow_le_zpow_right₀ one_le_two hx.minExponent_le
      _ ≤ x.mantissa * 2 ^ x.exponent := le_mul_of_one_le_left hunit.le hone
  · calc x.mantissa * (2 : ℚ) ^ x.exponent
        < 2 ^ (53 : ℤ) * 2 ^ x.exponent := by gcongr
      _ = 2 ^ (53 + x.exponent) := (zpow_add₀ two_ne_zero ..).symm
      _ ≤ 2 ^ (1024 : ℤ) := by
          have hle : x.exponent ≤ 971 := hx.le_maxExponent
          exact zpow_le_zpow_right₀ one_le_two (by omega)

/-- The search for a number starts at a grid that is no coarser than the number. -/
theorem ten_zpow_firstGrid_le (hx : x.IsCanonical) (hpos : x.mantissa ≠ 0) :
    (10 : ℚ) ^ floorLog10 x.fraction.1 x.fraction.2 ≤ x.mantissa * 2 ^ x.exponent := by
  obtain ⟨hden, hratio⟩ := fraction_ratio x
  obtain ⟨hlow, hhigh⟩ := magnitude_bounds hx hpos
  have hnum : x.fraction.1 ≠ 0 := by
    intro hzero
    rw [← hratio, hzero, Nat.cast_zero, zero_div] at hlow
    exact absurd hlow (not_le.mpr (by positivity))
  obtain ⟨hlength, hlength'⟩ := ratio_bounds hnum hden.ne'
  rw [hratio] at hlength hlength'
  have hsmall := (zpow_lt_zpow_iff_right₀ one_lt_two).mp (hlow.trans_lt hlength')
  have hlarge := (zpow_lt_zpow_iff_right₀ one_lt_two).mp (hlength.trans_lt hhigh)
  rw [← hratio]
  exact ten_zpow_floorLog10_le hnum hden.ne' (by omega) (by omega)

/-- The seventeenth grid is finer than the interval. -/
theorem ten_zpow_lastGrid_lt (hx : x.IsCanonical) (hpos : x.mantissa ≠ 0) :
    (10 : ℚ) ^ (floorLog10 x.fraction.1 x.fraction.2 - 16) < (x.gap + 1 / 2) * 2 ^ x.exponent := by
  have hfirst := ten_zpow_firstGrid_le hx hpos
  have hplaces : (x.mantissa : ℚ) / 10 ^ (16 : ℤ) < x.gap + 1 / 2 := by
    rw [div_lt_iff₀ (by positivity), gap]
    split
    · next hnarrow =>
      rw [hnarrow.1, cast_twoTo]
      norm_num
    · have hlt : (x.mantissa : ℚ) < twoTo 53 := by exact_mod_cast hx.mantissa_lt
      rw [cast_twoTo] at hlt
      refine hlt.trans ?_
      norm_num
  calc (10 : ℚ) ^ (floorLog10 x.fraction.1 x.fraction.2 - 16)
      = 10 ^ floorLog10 x.fraction.1 x.fraction.2 / 10 ^ (16 : ℤ) := zpow_sub₀ (by norm_num) ..
    _ ≤ x.mantissa * 2 ^ x.exponent / 10 ^ (16 : ℤ) := by gcongr
    _ = x.mantissa / 10 ^ (16 : ℤ) * 2 ^ x.exponent := by ring
    _ < (x.gap + 1 / 2) * 2 ^ x.exponent := by gcongr

theorem trimZeros_value (fuel c : Nat) (k : Int) :
    ((trimZeros fuel c k).1 : ℚ) * 10 ^ (trimZeros fuel c k).2 = c * 10 ^ k := by
  induction fuel generalizing c k with
  | zero => rfl
  | succ fuel ih =>
    rw [trimZeros]
    split
    · next hzero =>
      simp only [Bool.and_eq_true, beq_iff_eq] at hzero
      have hten : (c : ℚ) = 10 * (c / 10 : ℕ) := by
        exact_mod_cast (Nat.mul_div_cancel' (Nat.dvd_of_mod_eq_zero hzero.1)).symm
      rw [ih, zpow_add_one₀ (by norm_num), hten]
      ring
    · rfl

/-- **The shortest decimal lies in the interval** of its number: the search starts at a grid that is too
coarse and ends at the latest at one that is finer than the interval. -/
theorem holds_shortest (hx : x.IsCanonical) (hpos : x.mantissa ≠ 0) :
    x.interval.Holds (x.shortest.1 * 10 ^ x.shortest.2) := by
  obtain ⟨hden, hvalue, hlow, hhigh⟩ := interval_ratio hpos
  have hunit : (0 : ℚ) < 2 ^ x.exponent := by positivity
  have hgap := (gap_bounds x).1
  have hfound : x.interval.nearest? (floorLog10 x.fraction.1 x.fraction.2 - (16 : ℕ)) ≠ none := by
    refine RoundingInterval.nearest?_ne_none hden ?_ ?_ ?_
    · rw [hlow, hvalue]
      gcongr
      linarith
    · rw [hvalue, hhigh]
      gcongr
      linarith
    · rw [hlow, hhigh]
      refine (ten_zpow_lastGrid_lt hx hpos).trans_eq ?_
      ring
  rw [shortest]
  dsimp only
  rw [trimZeros_value, ← RoundingInterval.contains_iff hden]
  exact RoundingInterval.contains_search (by decide) hfound

/-! ### Reading it back -/

theorem two_zpow_le_ten_zpow : (2 : ℚ) ^ (1075 : ℤ) ≤ 10 ^ (400 : ℤ) := by
  have hle : 2 ^ 1075 ≤ 10 ^ 400 := by decide +kernel
  exact_mod_cast hle

/-- The rationals of an interval are in a range of powers of ten. -/
theorem bounds_of_holds (hx : x.IsCanonical) (hpos : x.mantissa ≠ 0) (h : x.interval.Holds q) :
    (10 : ℚ) ^ (-400 : ℤ) ≤ q ∧ q < 10 ^ (400 : ℤ) := by
  obtain ⟨-, -, hlow, hhigh⟩ := interval_ratio hpos
  obtain ⟨hleast, hgreatest⟩ := magnitude_bounds hx hpos
  have hone : (1 : ℚ) ≤ x.mantissa := by exact_mod_cast Nat.one_le_iff_ne_zero.mpr hpos
  have hunit : (0 : ℚ) < 2 ^ x.exponent := by positivity
  have hgap := (gap_bounds x).2
  have hends := h.le
  rw [hlow, hhigh] at hends
  have hpowers := two_zpow_le_ten_zpow
  constructor
  · calc (10 : ℚ) ^ (-400 : ℤ) = (10 ^ (400 : ℤ))⁻¹ := zpow_neg ..
      _ ≤ (2 ^ (1075 : ℤ))⁻¹ := inv_anti₀ (by positivity) hpowers
      _ = 1 / 2 * 2 ^ (-1074 : ℤ) := by
          rw [show (-1074 : ℤ) = -1075 + 1 by rfl, zpow_add_one₀ two_ne_zero, zpow_neg]
          ring
      _ ≤ 1 / 2 * (x.mantissa * 2 ^ x.exponent) := by gcongr
      _ = x.mantissa / 2 * 2 ^ x.exponent := by ring
      _ ≤ (x.mantissa - x.gap) * 2 ^ x.exponent := by
          gcongr
          linarith
      _ ≤ q := hends.1
  · calc q ≤ (x.mantissa + 1 / 2) * 2 ^ x.exponent := hends.2
      _ ≤ 2 * x.mantissa * 2 ^ x.exponent := by
          gcongr
          linarith
      _ = 2 * (x.mantissa * 2 ^ x.exponent) := by ring
      _ < 2 * 2 ^ (1024 : ℤ) := by gcongr
      _ = 2 ^ (1024 + 1 : ℤ) := by rw [zpow_add_one₀ two_ne_zero, mul_comm]
      _ ≤ 2 ^ (1075 : ℤ) := zpow_le_zpow_right₀ one_le_two (by decide)
      _ ≤ 10 ^ (400 : ℤ) := hpowers

/-- A natural lies between the powers of ten that its number of digits gives. -/
theorem length_toDigits_bounds {n : Nat} (hn : n ≠ 0) :
    (10 : ℚ) ^ (((Nat.toDigits 10 n).length : ℤ) - 1) ≤ n ∧ (n : ℚ) < 10 ^ ((Nat.toDigits 10 n).length : ℤ) := by
  have hlength : 0 < (Nat.toDigits 10 n).length := Nat.length_toDigits_pos
  have hlt (j : Nat) (hj : 0 < j) := Nat.length_toDigits_le_iff (n := n) (b := 10) (k := j) (by decide) hj
  constructor
  · obtain ⟨j, hj⟩ := Nat.exists_eq_succ_of_ne_zero hlength.ne'
    rw [hj, Nat.cast_succ, add_sub_cancel_right, zpow_natCast]
    have hle : 10 ^ j ≤ n := by
      rcases Nat.eq_zero_or_pos j with rfl | hpos
      · omega
      · exact not_lt.mp (mt (hlt j hpos).mpr (by omega))
    exact_mod_cast hle
  · rw [zpow_natCast]
    exact_mod_cast (hlt _ hlength).mp le_rfl

theorem digits_ne_zero_of_holds {digits : Nat} (hx : x.IsCanonical) (hpos : x.mantissa ≠ 0)
    (h : x.interval.Holds (digits * 10 ^ k)) : digits ≠ 0 := by
  have hlow := (bounds_of_holds hx hpos h).1
  rintro rfl
  rw [Nat.cast_zero, zero_mul] at hlow
  exact absurd hlow (not_le.mpr (by positivity))

/-- **A decimal in the interval of a number is read as the number**, however many digits it has. -/
theorem ofDecimal?_of_holds {digits : Nat} (hx : x.IsCanonical) (hpos : x.mantissa ≠ 0)
    (h : x.interval.Holds (digits * 10 ^ k)) : ofDecimal? x.negative digits k = some x := by
  obtain ⟨hlow, hhigh⟩ := bounds_of_holds hx hpos h
  have hdigits := digits_ne_zero_of_holds hx hpos h
  obtain ⟨hleast, hgreatest⟩ := length_toDigits_bounds hdigits
  have hten : (0 : ℚ) < 10 ^ k := by positivity
  have hrounds := roundsTo_of_holds hpos h
  rw [ofDecimal?, if_neg hdigits]
  dsimp only
  have htop : ¬ 400 < k + ((Nat.toDigits 10 digits).length : ℤ) := by
    intro hover
    refine absurd hhigh (not_lt.mpr ?_)
    calc (10 : ℚ) ^ (400 : ℤ) ≤ 10 ^ (((Nat.toDigits 10 digits).length : ℤ) - 1 + k) :=
          zpow_le_zpow_right₀ (by norm_num) (by omega)
      _ = 10 ^ (((Nat.toDigits 10 digits).length : ℤ) - 1) * 10 ^ k := zpow_add₀ (by norm_num) ..
      _ ≤ digits * 10 ^ k := by gcongr
  have hbottom : ¬ k + ((Nat.toDigits 10 digits).length : ℤ) < -400 := by
    intro hunder
    refine absurd hlow (not_le.mpr ?_)
    calc (digits : ℚ) * 10 ^ k < 10 ^ ((Nat.toDigits 10 digits).length : ℤ) * 10 ^ k := by gcongr
      _ = 10 ^ (((Nat.toDigits 10 digits).length : ℤ) + k) := (zpow_add₀ (by norm_num) ..).symm
      _ ≤ 10 ^ (-400 : ℤ) := zpow_le_zpow_right₀ (by norm_num) (by omega)
  rw [if_neg htop, if_neg hbottom]
  by_cases hk : 0 ≤ k
  · rw [if_pos hk]
    refine round?_of_roundsTo hx hpos one_ne_zero ?_
    push_cast
    rwa [cast_tenTo_toNat.1 hk, div_one]
  · rw [if_neg hk]
    refine round?_of_roundsTo hx hpos (Nat.pow_pos (by decide)).ne' ?_
    rwa [cast_tenTo_toNat.2 hk, div_inv_eq_mul]

end ApiScaffold.Binary64
