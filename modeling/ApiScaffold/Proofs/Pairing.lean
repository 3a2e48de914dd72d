import Mathlib.Data.List.Forall2
import Mathlib.Data.List.Perm.Basic

/-!
# Lists side by side

Steps and their cases, or methods and their blocks, are lists whose items belong together one by
one. The lemmas here find the partner of an item, give every item a partner, and carry the partners
along when one of the lists is put into another order.
-/

namespace ApiScaffold.Pairing

variable {α β : Type} {r : α → β → Prop}

/-- Every item of a list has a partner exactly if there is a list of partners. -/
theorem exists_forall₂_iff {xs : List α} :
    (∃ ys, List.Forall₂ r xs ys) ↔ ∀ x ∈ xs, ∃ y, r x y := by
  induction xs with
  | nil => simp
  | cons x rest ih =>
    rw [List.forall_mem_cons, ← ih]
    constructor
    · rintro ⟨ys, h⟩
      cases h with
      | cons hx hrest => exact ⟨⟨_, hx⟩, _, hrest⟩
    · rintro ⟨⟨y, hx⟩, ys, hrest⟩
      exact ⟨y :: ys, .cons hx hrest⟩

/-- The item of the left list at a place of the right one. -/
theorem exists_left_of_getElem? {xs : List α} {ys : List β} (h : List.Forall₂ r xs ys) {i : Nat}
    {y : β} (hy : ys[i]? = some y) : ∃ x, xs[i]? = some x ∧ r x y := by
  induction h generalizing i with
  | nil => cases hy
  | cons hx _ ih =>
    cases i with
    | zero =>
      obtain rfl := Option.some.inj hy
      exact ⟨_, rfl, hx⟩
    | succ i => exact ih hy

/-- The item of the right list at a place of the left one. -/
theorem exists_right_of_getElem? {xs : List α} {ys : List β} (h : List.Forall₂ r xs ys) {i : Nat}
    {x : α} (hx : xs[i]? = some x) : ∃ y, ys[i]? = some y ∧ r x y :=
  exists_left_of_getElem? h.flip hx

/-- Every item of the right list has a partner. -/
theorem exists_left_of_mem {xs : List α} {ys : List β} (h : List.Forall₂ r xs ys) {y : β}
    (hy : y ∈ ys) : ∃ x ∈ xs, r x y := by
  obtain ⟨i, hi⟩ := List.mem_iff_getElem?.mp hy
  obtain ⟨x, hx, hxy⟩ := exists_left_of_getElem? h hi
  exact ⟨x, List.mem_of_getElem? hx, hxy⟩

/-- An item with a property is there on the left exactly if there is one on the right, when
partners have it together. -/
theorem exists_mem_congr {p : α → Prop} {q : β → Prop} {xs : List α} {ys : List β}
    (h : List.Forall₂ (fun x y => p x ↔ q y) xs ys) : (∃ x ∈ xs, p x) ↔ ∃ y ∈ ys, q y := by
  induction h with
  | nil => simp
  | cons hx _ ih => simp [hx, ih]

/-- A pair whose left item has a property is one with a left item that has it. -/
theorem exists_mem_zip_left {p : α → Prop} {xs : List α} {ys : List β}
    (h : xs.length = ys.length) : (∃ c ∈ xs.zip ys, p c.1) ↔ ∃ x ∈ xs, p x := by
  have hfst : (xs.zip ys).map (·.1) = xs := List.map_fst_zip (Nat.le_of_eq h)
  conv => rhs; rw [← hfst]
  simp only [List.mem_map, exists_exists_and_eq_and]

theorem exists_mem_zip_right {p : β → Prop} {xs : List α} {ys : List β}
    (h : xs.length = ys.length) : (∃ c ∈ xs.zip ys, p c.2) ↔ ∃ y ∈ ys, p y := by
  have hsnd : (xs.zip ys).map (·.2) = ys := List.map_snd_zip (Nat.le_of_eq h.symm)
  conv => rhs; rw [← hsnd]
  simp only [List.mem_map, exists_exists_and_eq_and]

/-- **Partners follow a new order**: when the left list is permuted, the right one can be so in the
same way. -/
theorem exists_zip_perm {xs xs' : List α} (h : xs'.Perm xs) {ys : List β}
    (hl : xs.length = ys.length) :
    ∃ ys', xs'.length = ys'.length ∧ (xs'.zip ys').Perm (xs.zip ys) := by
  induction h generalizing ys with
  | nil => exact ⟨[], rfl, by simp⟩
  | @cons x rest rest' _ ih =>
    cases ys with
    | nil => cases hl
    | cons y more =>
      obtain ⟨more', hl', hp⟩ := ih (Nat.succ.inj hl)
      exact ⟨y :: more', congrArg Nat.succ hl', hp.cons _⟩
  | swap a b rest =>
    match ys, hl with
    | [], hl => cases hl
    | [_], hl => cases hl
    | u :: v :: more, hl => exact ⟨v :: u :: more, hl, .swap ..⟩
  | trans _ _ ih₁ ih₂ =>
    obtain ⟨ys₂, hl₂, hp₂⟩ := ih₂ hl
    obtain ⟨ys₁, hl₁, hp₁⟩ := ih₁ hl₂
    exact ⟨ys₁, hl₁, hp₁.trans hp₂⟩

end ApiScaffold.Pairing
