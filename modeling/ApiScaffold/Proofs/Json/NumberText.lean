import ApiScaffold.Json.Printer
import ApiScaffold.Proofs.Json.NumberGrammar
import ApiScaffold.Proofs.Number.Shortest

/-!
# Number texts read exactly

`NumberText.exactValue?` is the value of a number text by the letter of the format: an integer is the integer that its
digits stand for, whatever its size, and any other number is the binary64 number nearest to it. The text printed
for a binary64 number is in the grammar of numbers, and it has the digits and the scale of the shortest decimal,
however its point is set (`exists_spells`). So its exact value is the number (`exists_exactValue?_numberText`).
-/

namespace ApiScaffold.Json

namespace NumberText

variable {n : NumberText}

/-- The digits of a number without its point, as a natural. -/
def digits (n : NumberText) : Nat := digitsValue (n.whole ++ n.fraction.getD [])

/-- The power of ten that the last digit of a number counts. -/
def scale (n : NumberText) : Int :=
  match n.exponent with
  | none => -(n.fraction.getD []).length
  | some (negative, ds) =>
    (if negative then -(digitsValue ds : Int) else digitsValue ds) - (n.fraction.getD []).length

/-- **Exact value of a number**: an integer if it has no point and no exponent, and otherwise the nearest
binary64 number, if that is finite. -/
def exactValue? (n : NumberText) : Option NumberValue :=
  match n.fraction, n.exponent with
  | none, none =>
    some (.int (if n.negative then -(digitsValue n.whole : Int) else digitsValue n.whole))
  | _, _ => (Binary64.ofDecimal? n.negative n.digits n.scale).map .float

theorem exactValue?_of_isSome (h : n.fraction.isSome ∨ n.exponent.isSome) :
    n.exactValue? = (Binary64.ofDecimal? n.negative n.digits n.scale).map .float := by
  unfold exactValue?
  split
  · next hfraction hexponent =>
    rw [hfraction, hexponent] at h
    rcases h with h | h <;> cases h
  · rfl

theorem scale_of_exponent_none (h : n.exponent = none) : n.scale = -(n.fraction.getD []).length := by
  rw [scale, h]

/-- The exponent that is written is the exponent. -/
theorem scale_of_exponent {e : Int} (h : n.exponent = some (decide (e < 0), Nat.toDigits 10 e.natAbs)) :
    n.scale = e - (n.fraction.getD []).length := by
  rw [scale, h]
  dsimp only
  rw [digitsValue_toDigits]
  simp only [decide_eq_true_eq]
  split <;> omega

/-! ### Printed magnitudes -/

/-- **The parts of an unsigned text** that has a point or an exponent, and the value of its digits. -/
structure Spells (n : NumberText) (text : String) (q : ℚ) : Prop where
  written : n.IsWritten
  chars : n.magnitudeChars = text.toList
  marked : n.fraction.isSome ∨ n.exponent.isSome
  value : (n.digits : ℚ) * 10 ^ n.scale = q

section Magnitude

variable {digits : Nat} {k : Int}

/-- A whole number: all digits stand before the point, followed by zeros. -/
theorem spells_whole (negative : Bool) (hdigits : digits ≠ 0) (hk : 0 ≤ k) :
    Spells ⟨negative, Nat.toDigits 10 digits ++ List.replicate k.toNat '0', some ['0'], none⟩
      (String.ofList (Nat.toDigits 10 digits) ++ DecimalStyle.zeros k ++ ".0") (digits * 10 ^ k) := by
  obtain ⟨j, rfl⟩ := Int.eq_ofNat_of_zero_le hk
  have hds := isDigits_toDigits digits
  refine ⟨⟨⟨?_, ?_⟩, .inr ?_, ?_, ?_⟩, ?_, .inl rfl, ?_⟩
  · exact List.append_ne_nil_of_left_ne_nil hds.1 _
  · intro c hc
    rcases List.mem_append.mp hc with hc | hc
    · exact hds.2 c hc
    · exact isDigit_zeros _ c hc
  · rw [List.head?_append_of_ne_nil _ hds.1]
    exact head?_toDigits_ne hdigits
  · rintro ds ⟨⟩
    exact ⟨List.cons_ne_nil _ _, isDigit_zeros 1⟩
  · rintro e ⟨⟩
  · rw [DecimalStyle.zeros, String.toList_append, String.toList_append, String.toList_ofList,
      String.toList_ofList]
    rfl
  · have hvalue : NumberText.digits
        ⟨negative, Nat.toDigits 10 digits ++ List.replicate j '0', some ['0'], none⟩ = digits * tenTo j * 10 := by
      rw [NumberText.digits, Option.getD_some, digitsValue_append, digitsValue_append, digitsValue_zeros,
        digitsValue_toDigits, List.length_replicate]
      rfl
    rw [Int.toNat_natCast, hvalue, scale_of_exponent_none rfl, Option.getD_some]
    push_cast
    rw [cast_tenTo]
    simp

/-- A number above one with a fraction: the point stands between its digits. -/
theorem spells_point (negative : Bool) (hdigits : digits ≠ 0) {j : Nat} (hj : 0 < j)
    (hlt : j < (Nat.toDigits 10 digits).length) :
    Spells ⟨negative, (Nat.toDigits 10 digits).take j, some ((Nat.toDigits 10 digits).drop j), none⟩
      (String.ofList ((Nat.toDigits 10 digits).take j) ++ "." ++ String.ofList ((Nat.toDigits 10 digits).drop j))
      (digits * 10 ^ ((j : Int) - (Nat.toDigits 10 digits).length)) := by
  have hds := isDigits_toDigits digits
  refine ⟨⟨⟨?_, ?_⟩, .inr ?_, ?_, ?_⟩, ?_, .inl rfl, ?_⟩
  · rw [Ne, List.take_eq_nil_iff]
    rintro (hzero | hnil)
    · omega
    · exact hds.1 hnil
  · intro c hc
    exact hds.2 c (List.mem_of_mem_take hc)
  · rw [List.head?_take, if_neg (by omega)]
    exact head?_toDigits_ne hdigits
  · rintro ds ⟨⟩
    refine ⟨?_, fun c hc => hds.2 c (List.mem_of_mem_drop hc)⟩
    rw [Ne, List.drop_eq_nil_iff]
    omega
  · rintro e ⟨⟩
  · rw [String.toList_append, String.toList_append, String.toList_ofList, String.toList_ofList,
      List.append_assoc, magnitudeChars]
    simp [fractionChars, exponentChars]
  · have hscale : NumberText.scale
        ⟨negative, (Nat.toDigits 10 digits).take j, some ((Nat.toDigits 10 digits).drop j), none⟩ =
        (j : Int) - (Nat.toDigits 10 digits).length := by
      rw [scale_of_exponent_none rfl, Option.getD_some, List.length_drop]
      omega
    rw [hscale, NumberText.digits, Option.getD_some, List.take_append_drop, digitsValue_toDigits]

/-- A number below one: zeros stand between the point and its digits. -/
theorem spells_small (negative : Bool) (digits j : Nat) :
    Spells ⟨negative, ['0'], some (List.replicate j '0' ++ Nat.toDigits 10 digits), none⟩
      ("0." ++ DecimalStyle.zeros j ++ String.ofList (Nat.toDigits 10 digits))
      (digits * 10 ^ (-(j : Int) - (Nat.toDigits 10 digits).length)) := by
  have hds := isDigits_toDigits digits
  refine ⟨⟨⟨?_, ?_⟩, .inl rfl, ?_, ?_⟩, ?_, .inl rfl, ?_⟩
  · exact List.cons_ne_nil _ _
  · exact isDigit_zeros 1
  · rintro ds ⟨⟩
    refine ⟨List.append_ne_nil_of_right_ne_nil _ hds.1, ?_⟩
    intro c hc
    rcases List.mem_append.mp hc with hc | hc
    · exact isDigit_zeros _ c hc
    · exact hds.2 c hc
  · rintro e ⟨⟩
  · rw [DecimalStyle.zeros, String.toList_append, String.toList_append, String.toList_ofList,
      String.toList_ofList, List.append_assoc, magnitudeChars]
    simp [fractionChars, exponentChars]
  · have hscale : NumberText.scale
        ⟨negative, ['0'], some (List.replicate j '0' ++ Nat.toDigits 10 digits), none⟩ =
        -(j : Int) - (Nat.toDigits 10 digits).length := by
      rw [scale_of_exponent_none rfl, Option.getD_some, List.length_append, List.length_replicate]
      omega
    have hzero : digitsValue ['0'] = 0 := rfl
    rw [hscale, NumberText.digits, Option.getD_some, digitsValue_append, digitsValue_append, digitsValue_zeros,
      digitsValue_toDigits, hzero, Nat.zero_mul, Nat.zero_mul, Nat.zero_add, Nat.zero_add]

theorem toList_exponentText (e : Int) :
    (DecimalStyle.json.exponentText e).toList =
      exponentChars (some (decide (e < 0), Nat.toDigits 10 e.natAbs)) := by
  cases e with
  | ofNat e =>
    have htext : (toString (Int.ofNat e)).toList = Nat.toDigits 10 e := Nat.toList_repr
    rw [DecimalStyle.exponentText, if_neg (by simp), String.toList_append, htext]
    rfl
  | negSucc e =>
    have htext : (toString (Int.negSucc e)).toList = '-' :: Nat.toDigits 10 (e + 1) := by
      have hrepr : (Nat.repr (e + 1)).toList = Nat.toDigits 10 (e + 1) := Nat.toList_repr
      rw [← hrepr]
      exact String.toList_append
    rw [DecimalStyle.exponentText, if_pos (Int.negSucc_lt_zero e), String.toList_append, htext,
      decide_eq_true (Int.negSucc_lt_zero e)]
    rfl

/-- Any other number: one digit stands before the point, if there is one, and the exponent says the rest. -/
theorem spells_exponent (negative : Bool) (hdigits : digits ≠ 0) {d : Char} {ds : List Char}
    (hds : Nat.toDigits 10 digits = d :: ds) (e : Int) :
    Spells ⟨negative, [d], if ds = [] then none else some ds, some (decide (e < 0), Nat.toDigits 10 e.natAbs)⟩
      (String.singleton d ++ (if ds = [] then "" else "." ++ String.ofList ds) ++ DecimalStyle.json.exponentText e)
      (digits * 10 ^ (e - ds.length)) := by
  have hall := isDigits_toDigits digits
  have hhead := head?_toDigits_ne hdigits
  have hvalue := digitsValue_toDigits digits
  rw [hds] at hall hhead hvalue
  have hrest : (if ds = [] then none else some ds).getD [] = ds := by
    split
    · symm; assumption
    · rfl
  refine ⟨⟨⟨?_, ?_⟩, .inr hhead, ?_, ?_⟩, ?_, .inr rfl, ?_⟩
  · exact List.cons_ne_nil _ _
  · intro c hc
    rw [List.mem_singleton.mp hc]
    exact hall.2 d List.mem_cons_self
  · intro ds' hds'
    dsimp only at hds'
    split at hds'
    · cases hds'
    · obtain rfl := Option.some.inj hds'
      exact ⟨‹_›, fun c hc => hall.2 c (List.mem_cons_of_mem _ hc)⟩
  · rintro e' ⟨⟩
    exact isDigits_toDigits _
  · rw [String.toList_append, String.toList_append, toList_exponentText, List.append_assoc, magnitudeChars]
    split
    · simp [fractionChars]
    · simp [fractionChars]
  · -- one digit before the point and the others behind it are the digits as a whole
    rw [scale_of_exponent rfl, NumberText.digits]
    dsimp only
    rw [hrest]
    change ((digitsValue (d :: ds) : ℕ) : ℚ) * _ = _
    rw [hvalue]

/-- **Every printed magnitude is spelled** by the digits and the scale that it is printed from. -/
theorem exists_spells (negative : Bool) (hdigits : digits ≠ 0) (k : Int) :
    ∃ n : NumberText, n.negative = negative ∧
      n.Spells (DecimalStyle.json.magnitude digits k) (digits * 10 ^ k) := by
  have hlength : 0 < (Nat.toDigits 10 digits).length := Nat.length_toDigits_pos
  rw [DecimalStyle.magnitude]
  split
  · next hwhole =>
    simp only [Bool.and_eq_true, decide_eq_true_eq] at hwhole
    exact ⟨_, rfl, spells_whole negative hdigits hwhole.1⟩
  split
  · next hwhole hpoint =>
    simp only [Bool.and_eq_true, decide_eq_true_eq] at hwhole hpoint
    obtain ⟨j, hj⟩ := Int.eq_ofNat_of_zero_le hpoint.1.le
    have hk : (j : Int) - (Nat.toDigits 10 digits).length = k := by omega
    have hspells := spells_point negative hdigits (show 0 < j by omega) (by omega)
    rw [hk] at hspells
    rw [hj, Int.toNat_natCast]
    exact ⟨_, rfl, hspells⟩
  split
  · next hsmall =>
    simp only [Bool.and_eq_true, decide_eq_true_eq] at hsmall
    obtain ⟨j, hj⟩ := Int.eq_ofNat_of_zero_le (show 0 ≤ -((Nat.toDigits 10 digits).length + k) by omega)
    have hk : -(j : Int) - (Nat.toDigits 10 digits).length = k := by omega
    have hspells := spells_small negative digits j
    rw [hk] at hspells
    rw [hj]
    exact ⟨_, rfl, hspells⟩
  · -- the last layout has an exponent, with a point only if there is more than one digit
    obtain ⟨d, ds, hds⟩ := List.exists_cons_of_ne_nil (isDigits_toDigits digits).1
    have hk : (Nat.toDigits 10 digits).length + k - 1 - ds.length = k := by
      rw [hds, List.length_cons]
      omega
    have hspells := spells_exponent negative hdigits hds ((Nat.toDigits 10 digits).length + k - 1)
    rw [hk] at hspells
    rw [hds] at hspells ⊢
    cases ds with
    | nil =>
      rw [if_pos rfl, if_pos rfl, String.append_empty] at hspells
      exact ⟨_, rfl, hspells⟩
    | cons d' ds =>
      rw [if_neg (List.cons_ne_nil _ _), if_neg (List.cons_ne_nil _ _), ← String.append_assoc] at hspells
      exact ⟨_, rfl, hspells⟩

end Magnitude

/-! ### Printed numbers -/

variable {x : Binary64}

/-- A text that spells the shortest decimal of a number is read as the number. -/
theorem exactValue?_of_spells {text : String} (hx : x.IsCanonical) (hpos : x.mantissa ≠ 0)
    (hnegative : n.negative = x.negative) (h : n.Spells text (x.shortest.1 * 10 ^ x.shortest.2)) :
    n.exactValue? = some (.float x) := by
  have hholds := Binary64.holds_shortest hx hpos
  rw [← h.value] at hholds
  rw [exactValue?_of_isSome h.marked, hnegative, Binary64.ofDecimal?_of_holds hx hpos hholds]
  rfl

/-- A spelled text with its sign is taken apart. -/
theorem ofChars?_of_spells {text : String} {q : ℚ} (h : n.Spells text q) :
    ofChars? ((if n.negative then "-" else "") ++ text).toList = some n := by
  have hsign : (if n.negative then "-" else "").toList = if n.negative then ['-'] else [] := by
    cases n.negative <;> rfl
  rw [String.toList_append, hsign, ← h.chars]
  exact ofChars?_chars h.written

theorem spells_zero (negative : Bool) : Spells ⟨negative, ['0'], some ['0'], none⟩ "0.0" 0 := by
  refine ⟨⟨⟨List.cons_ne_nil _ _, isDigit_zeros 1⟩, .inl rfl, ?_, ?_⟩, rfl, .inl rfl, ?_⟩
  · rintro ds ⟨⟩
    exact ⟨List.cons_ne_nil _ _, isDigit_zeros 1⟩
  · rintro e ⟨⟩
  · have hdigits : NumberText.digits ⟨negative, ['0'], some ['0'], none⟩ = 0 := rfl
    rw [hdigits, Nat.cast_zero, zero_mul]

/-- **A number is read as it is printed.** What is printed is the shortest decimal that rounds to the
number, in one of four layouts, and each layout is a number text of the format. -/
theorem exists_exactValue?_numberText (hx : x.IsCanonical) :
    ∃ n, ofChars? (numberText x).toList = some n ∧ n.exactValue? = some (.float x) := by
  rw [numberText, DecimalStyle.render]
  dsimp only
  split
  · next hzero =>
    refine ⟨⟨x.negative, ['0'], some ['0'], none⟩, ?_, ?_⟩
    · have hmark : "0" ++ DecimalStyle.json.wholeMark = "0.0" := by decide
      have htext := ofChars?_of_spells (spells_zero x.negative)
      rw [String.append_assoc, hmark]
      exact htext
    · have hread : Binary64.ofDecimal? x.negative 0 (-1) = some x := by
        rw [Binary64.ofDecimal?, if_pos rfl, ← hx.eq_zero (beq_iff_eq.mp hzero)]
      rw [exactValue?_of_isSome (spells_zero x.negative).marked]
      exact congrArg (Option.map NumberValue.float) hread
  · next hzero =>
    have hpos : x.mantissa ≠ 0 := mt beq_iff_eq.mpr hzero
    have hdigits := Binary64.digits_ne_zero_of_holds hx hpos (Binary64.holds_shortest hx hpos)
    obtain ⟨n, hnegative, hn⟩ := exists_spells x.negative hdigits x.shortest.2
    refine ⟨n, ?_, exactValue?_of_spells hx hpos hnegative hn⟩
    rw [← hnegative]
    exact ofChars?_of_spells hn

/-- **The numbers that the quick reader makes** are in their normal form as well. -/
theorem isCanonical_of_float? (h : n.float? = some x) : x.IsCanonical := by
  unfold float? at h
  dsimp only at h
  obtain ⟨y, hy, hsign⟩ := Option.map_eq_some_iff.mp h
  have hcanonical : y.IsCanonical := by
    cases hexponent : n.exponent with
    | none =>
      rw [hexponent] at hy
      exact Binary64.isCanonical_of_scaleByTen? hy
    | some e =>
      rw [hexponent] at hy
      dsimp only at hy
      split at hy
      · obtain ⟨-, hzero⟩ := Option.ite_none_left_eq_some.mp hy
        rw [← Option.some.inj hzero]
        exact Binary64.isCanonical_zero false
      · exact Binary64.isCanonical_of_scaleByTen? hy
  split at hsign
  · rw [← hsign]
    exact hcanonical.neg
  · rwa [← hsign]

end NumberText

end ApiScaffold.Json
