import ApiScaffold.Proofs.Path.Origin

/-!
# Code is never empty

What is written for a value stands in the middle of a file: after a colon, between two plus signs, as an
argument. So it must not be empty. Every JSON value has some text as a literal, every expression has some
code, and so has every path, for which an empty literal stands if it has no part.
-/

namespace ApiScaffold

/-! ### Numbers -/

/-- The text of an integer has at least one digit. -/
theorem Json.toString_int_ne_empty (n : Int) : toString n ≠ "" := by
  cases n with
  | ofNat n => exact Nat.repr_ne_empty
  | negSucc n => exact fun h => Nat.repr_ne_empty (String.append_eq_empty_iff.mp h).2

/-- A JSON number always has a point or an exponent, and a digit before it. -/
theorem DecimalStyle.magnitude_json_ne_empty (digits : Nat) (k : Int) : json.magnitude digits k ≠ "" := by
  rw [magnitude]
  split
  · simp [String.append_eq_empty_iff, json]
  split
  · simp [String.append_eq_empty_iff]
  split
  · simp [String.append_eq_empty_iff]
  split <;> simp [String.append_eq_empty_iff]

theorem Json.numberText_ne_empty (x : Binary64) : numberText x ≠ "" := by
  rw [numberText, DecimalStyle.render]
  dsimp only
  split
  · simp [String.append_eq_empty_iff]
  · exact fun h => DecimalStyle.magnitude_json_ne_empty _ _ (String.append_eq_empty_iff.mp h).2

/-! ### Literals and expressions -/

namespace Literal

/-- Even the empty text is written with its two quotes. -/
theorem quote_ne_empty (s : String) : quote s ≠ "" := by
  simp [quote]

/-- **Every value has a literal.** -/
theorem code_ne_empty (v : Json) : code v ≠ "" := by
  cases v with
  | null => simp [code]
  | bool value => cases value <;> simp [code]
  | int value =>
    rw [code]
    exact Json.toString_int_ne_empty value
  | float value =>
    rw [code]
    exact Json.numberText_ne_empty value
  | str value =>
    rw [code]
    exact quote_ne_empty value
  | arr items =>
    rw [code]
    split <;> simp [String.append_eq_empty_iff]
  | obj fields =>
    rw [code]
    split <;> simp [String.append_eq_empty_iff]

end Literal

/-- An expression always has code, so a sum of expressions has no empty operand. -/
theorem Expression.code_ne_empty (e : Expression) : e.code ≠ "" := by
  cases e with
  | literal v => exact Literal.code_ne_empty v
  | dependency step field => simp [code, String.append_eq_empty_iff]
  | missing => simp [code, missingCode]

/-! ### Paths -/

/-- A segment that is no text is an expression. -/
theorem PathSegment.code_ne_empty (s : PathSegment) : s.code ≠ "" := by
  cases s with
  | text t => exact Literal.quote_ne_empty t
  | placeholder name e => exact e.code_ne_empty

namespace ResolvedPath

/-- Only texts that are not empty are quoted. -/
theorem ne_empty_of_mem_quotedIfAny {text part : String} (h : part ∈ quotedIfAny text) : part ≠ "" := by
  rw [quotedIfAny] at h
  split at h
  · cases h
  · obtain rfl := List.mem_singleton.mp h
    exact Literal.quote_ne_empty text

/-- No part of a path is empty, neither a text between values nor a value. -/
theorem ne_empty_of_mem_partsFrom {text part : String} {segments : List PathSegment}
    (h : part ∈ partsFrom text segments) : part ≠ "" := by
  induction segments generalizing text with
  | nil => exact ne_empty_of_mem_quotedIfAny h
  | cons segment rest ih =>
    rw [partsFrom] at h
    split at h
    · exact ih h
    · rcases List.mem_append.mp h with h | h
      · exact ne_empty_of_mem_quotedIfAny h
      · rcases List.mem_cons.mp h with rfl | h
        · exact segment.code_ne_empty
        · exact ih h

/-- **Every path has code.** -/
theorem code_ne_empty (path : ResolvedPath) : path.code ≠ "" := by
  have hfirst : ∃ part rest, path.parts = part :: rest ∧ part ≠ "" := by
    rw [parts]
    split
    · exact ⟨_, _, rfl, Literal.quote_ne_empty ""⟩
    · next hne =>
      obtain ⟨part, rest, hparts⟩ := List.exists_cons_of_ne_nil hne
      exact ⟨part, rest, hparts, ne_empty_of_mem_partsFrom (hparts ▸ List.mem_cons_self ..)⟩
  obtain ⟨part, rest, hparts, hne⟩ := hfirst
  obtain ⟨tail, htail⟩ := Text.exists_join_cons " + " rest
  rw [code, hparts, htail]
  exact fun h => hne (String.append_eq_empty_iff.mp h).1

end ResolvedPath

end ApiScaffold
