import ApiScaffold.Json.Number
import ApiScaffold.Proofs.Literal.Value
import Mathlib.Data.List.Basic

/-!
# The grammar of numbers

`NumberText.chars` puts a number text together from its parts, and `NumberText.ofChars?` takes it apart again
(`NumberText.ofChars?_chars`), if each part is digits and no needless zero stands in front (`NumberText.IsWritten`).
The digits of a natural are such a text.
-/

namespace ApiScaffold.Json

open Literal.Value (takeWhile_append_of_apart dropWhile_append_of_apart)

/-! ### Digits -/

/-- Digits that follow others shift these by as many places. -/
theorem digitsValue_append (a b : List Char) :
    digitsValue (a ++ b) = digitsValue a * tenTo b.length + digitsValue b := by
  have hstart : Nat.ofDigitChars 10 b (digitsValue a) = tenTo b.length * digitsValue a + digitsValue b :=
    Nat.ofDigitChars_eq_ofDigitChars_zero
  rw [Nat.mul_comm, ← hstart]
  exact Nat.ofDigitChars_append 0

theorem digitsValue_zeros (n : Nat) : digitsValue (List.replicate n '0') = 0 :=
  Nat.ofDigitChars_replicate_zero

/-- Text that is digits and nothing else. -/
def IsDigits (ds : List Char) : Prop := ds ≠ [] ∧ ∀ c ∈ ds, c.isDigit = true

theorem isDigits_toDigits (n : Nat) : IsDigits (Nat.toDigits 10 n) :=
  ⟨Nat.toDigits_ne_nil, fun _ hc => Nat.isDigit_of_mem_toDigits (by decide) (by decide) hc⟩

theorem isDigit_zeros (n : Nat) : ∀ c ∈ List.replicate n '0', c.isDigit = true := by
  intro c hc
  rw [List.eq_of_mem_replicate hc]
  rfl

/-- Only zero starts with a zero. -/
theorem head?_toDigits_ne {n : Nat} (h : n ≠ 0) : (Nat.toDigits 10 n).head? ≠ some '0' := by
  induction n using Nat.strongRecOn with
  | _ n ih =>
    by_cases hlt : n < 10
    · rw [Nat.toDigits_of_lt_base hlt, List.head?_cons]
      intro hzero
      have hcode := congrArg Char.toNat (Option.some.inj hzero)
      rw [Nat.toNat_digitChar_of_lt_ten hlt] at hcode
      change 48 + n = 48 at hcode
      omega
    · rw [Nat.toDigits_of_base_le (by decide) (Nat.le_of_not_lt hlt),
        List.head?_append_of_ne_nil _ Nat.toDigits_ne_nil]
      exact ih (n / 10) (by omega) (by omega)

/-- The value of digits is the natural that they are the digits of. -/
theorem digitsValue_toDigits (n : Nat) : digitsValue (Nat.toDigits 10 n) = n :=
  Nat.ofDigitChars_toDigits (by decide) (by decide)

namespace NumberText

variable {n : NumberText}

/-! ### Grammar -/

/-- The text of a fraction. -/
def fractionChars : Option (List Char) → List Char
  | none => []
  | some ds => '.' :: ds

/-- The text of an exponent, with its sign. -/
def exponentChars : Option (Bool × List Char) → List Char
  | none => []
  | some (negative, ds) => 'e' :: (if negative then '-' else '+') :: ds

/-- The text of a number without its sign. -/
def magnitudeChars (n : NumberText) : List Char :=
  n.whole ++ (fractionChars n.fraction ++ exponentChars n.exponent)

/-- **Text of a number taken apart.** -/
def chars (n : NumberText) : List Char := (if n.negative then ['-'] else []) ++ n.magnitudeChars

/-- **Parts that the grammar allows**: digits in each, and no needless zero in front. -/
structure IsWritten (n : NumberText) : Prop where
  whole : IsDigits n.whole
  leading : n.whole = ['0'] ∨ n.whole.head? ≠ some '0'
  fraction : ∀ ds ∈ n.fraction, IsDigits ds
  exponent : ∀ e ∈ n.exponent, IsDigits e.2

/-- An exponent is taken apart as it was put together. No sign and a plus sign say the same, and the
first is written. -/
theorem exponentOf?_exponentChars {negative : Bool} {ds : List Char} (h : IsDigits ds) :
    exponentOf? (exponentChars (some (negative, ds))) = some (negative, ds) := by
  obtain ⟨hne, hdigits⟩ := h
  have hall : (!ds.isEmpty && ds.all Char.isDigit) = true := by
    rw [Bool.and_eq_true, Bool.not_eq_true', List.isEmpty_eq_false_iff, List.all_eq_true]
    exact ⟨hne, hdigits⟩
  cases negative with
  | false => exact if_pos hall
  | true => exact if_pos hall

/-- An exponent starts with its mark, so the digits before it end there. -/
theorem head?_exponentChars (e : Option (Bool × List Char)) :
    ∀ c ∈ (exponentChars e).head?, c.isDigit = false := by
  intro c hc
  cases e with
  | none => cases hc
  | some e =>
    obtain rfl : 'e' = c := Option.some.inj hc
    rfl

/-- So does whatever follows the whole part: a point, a mark, or nothing. -/
theorem head?_fractionChars (f : Option (List Char)) (e : Option (Bool × List Char)) :
    ∀ c ∈ (fractionChars f ++ exponentChars e).head?, c.isDigit = false := by
  intro c hc
  cases f with
  | none => exact head?_exponentChars e c hc
  | some ds =>
    obtain rfl : '.' = c := Option.some.inj hc
    rfl

/-- **What follows the whole part** is taken apart into fraction and exponent. Each of the two starts
with a mark of its own, so neither takes digits of the other. -/
theorem tail?_chars {negative : Bool} {whole : List Char} {fraction : Option (List Char)}
    {exponent : Option (Bool × List Char)} (hfraction : ∀ ds ∈ fraction, IsDigits ds)
    (hexponent : ∀ e ∈ exponent, IsDigits e.2) :
    tail? negative whole (fractionChars fraction ++ exponentChars exponent) =
      some ⟨negative, whole, fraction, exponent⟩ := by
  cases fraction with
  | none =>
    cases exponent with
    | none => rfl
    | some e =>
      exact congrArg (Option.map (NumberText.mk negative whole none ∘ some))
        (exponentOf?_exponentChars (hexponent e rfl))
  | some ds =>
    obtain ⟨hne, hdigits⟩ := hfraction ds rfl
    have hrest := head?_exponentChars exponent
    rw [fractionChars, List.cons_append, tail?, takeWhile_append_of_apart hdigits hrest,
      dropWhile_append_of_apart hdigits hrest, if_neg (by rwa [List.isEmpty_iff])]
    cases exponent with
    | none => rfl
    | some e =>
      exact congrArg (Option.map (NumberText.mk negative whole (some ds) ∘ some))
        (exponentOf?_exponentChars (hexponent e rfl))

/-- No sign belongs to a magnitude. -/
theorem IsWritten.magnitudeChars_ne (h : n.IsWritten) (rest : List Char) : n.magnitudeChars ≠ '-' :: rest := by
  obtain ⟨hne, hdigits⟩ := h.whole
  intro hminus
  obtain ⟨c, cs, hcs⟩ := List.exists_cons_of_ne_nil hne
  rw [magnitudeChars, hcs] at hminus
  have hc := hdigits c (by rw [hcs]; exact List.mem_cons_self)
  rw [(List.cons.inj hminus).1] at hc
  cases hc

/-- What is written has no needless leading zero. -/
theorem IsWritten.whole_ne (h : n.IsWritten) (d : Char) (rest : List Char) : n.whole ≠ '0' :: d :: rest := by
  intro hneedless
  rcases h.leading with hleading | hleading
  · rw [hneedless] at hleading
    cases hleading
  · exact hleading (by rw [hneedless]; rfl)

/-- **The text of allowed parts is taken apart into them.** -/
theorem ofChars?_chars (h : n.IsWritten) : ofChars? n.chars = some n := by
  obtain ⟨hne, hdigits⟩ := h.whole
  have hrest := head?_fractionChars n.fraction n.exponent
  unfold ofChars?
  split
  next negative cs hsplit =>
    have hparts : negative = n.negative ∧ cs = n.magnitudeChars := by
      rw [chars] at hsplit
      cases hnegative : n.negative with
      | false =>
        rw [hnegative] at hsplit
        split at hsplit
        · exact absurd ‹_› (h.magnitudeChars_ne _)
        · obtain ⟨rfl, rfl⟩ := Prod.mk.inj hsplit
          exact ⟨rfl, rfl⟩
      | true =>
        rw [hnegative] at hsplit
        obtain ⟨rfl, rfl⟩ := Prod.mk.inj hsplit
        exact ⟨rfl, rfl⟩
    obtain ⟨rfl, rfl⟩ := hparts
    rw [magnitudeChars, takeWhile_append_of_apart hdigits hrest, dropWhile_append_of_apart hdigits hrest]
    dsimp only
    split
    · exact absurd ‹_› hne
    · exact absurd ‹_› (h.whole_ne _ _)
    · exact tail?_chars h.fraction h.exponent

/-- **The digits of a natural** are a number, with or without a sign. -/
theorem ofChars?_toDigits (k : Nat) :
    ofChars? (Nat.toDigits 10 k) = some ⟨false, Nat.toDigits 10 k, none, none⟩ ∧
      ofChars? ('-' :: Nat.toDigits 10 k) = some ⟨true, Nat.toDigits 10 k, none, none⟩ := by
  have hwritten (negative : Bool) : IsWritten ⟨negative, Nat.toDigits 10 k, none, none⟩ := by
    refine ⟨isDigits_toDigits k, ?_, ?_, ?_⟩
    · by_cases hk : k = 0
      · rw [hk]
        exact .inl rfl
      · exact .inr (head?_toDigits_ne hk)
    · rintro ds ⟨⟩
    · rintro e ⟨⟩
  have hplain := ofChars?_chars (hwritten false)
  have hsigned := ofChars?_chars (hwritten true)
  simp only [chars, magnitudeChars, fractionChars, exponentChars, List.append_nil] at hplain hsigned
  exact ⟨hplain, hsigned⟩

end NumberText

end ApiScaffold.Json
