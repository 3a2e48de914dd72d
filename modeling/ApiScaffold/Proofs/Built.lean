import ApiScaffold.Fault
import Mathlib.Data.List.Forall2

/-!
# Results of building

A result of building is a value or a fault. The lemmas here take a chain of such results apart: the
chain succeeds exactly if each of its links does, and a pass over a list exactly if each of its items
does. A chain that fails gives the fault of the first link that does (`Built.FirstFault`). Chains are
also compared with each other: when one shows a part of its values, two chains show the same if their
links do. When a chain succeeds does not depend on what its faults are.
-/

namespace ApiScaffold.Built

variable {ε α β γ δ : Type}

theorem ok_bind (a : α) (f : α → Built β) : ((.ok a : Built α) >>= f) = f a := rfl

theorem error_bind (fault : Fault) (f : α → Built β) :
    ((.error fault : Built α) >>= f) = .error fault := rfl

/-- A chain succeeds with a value if its first link does, and the rest does with what that gave. -/
theorem bind_eq_ok {x : Except ε α} {f : α → Except ε β} {b : β} :
    x >>= f = .ok b ↔ ∃ a, x = .ok a ∧ f a = .ok b := by
  cases x <;> simp [bind, Except.bind]

theorem pure_eq_ok {a b : α} : (pure a : Except ε α) = .ok b ↔ a = b := by
  simp [pure, Except.pure]

theorem map_eq_ok {x : Except ε α} {f : α → β} {b : β} :
    x.map f = .ok b ↔ ∃ a, x = .ok a ∧ f a = b := by
  cases x <;> simp [Except.map]

/-- A pass over a list succeeds with what its items give one by one. -/
theorem mapM_eq_ok {f : α → Except ε β} {xs : List α} {ys : List β} :
    xs.mapM f = .ok ys ↔ List.Forall₂ (fun x y => f x = .ok y) xs ys := by
  induction xs generalizing ys with
  | nil =>
    rw [List.mapM_nil, pure_eq_ok, List.forall₂_nil_left_iff, eq_comm]
  | cons x rest ih =>
    rw [List.mapM_cons, bind_eq_ok, List.forall₂_cons_left_iff]
    constructor
    · rintro ⟨y, hy, h⟩
      obtain ⟨more, hmore, h⟩ := bind_eq_ok.mp h
      exact ⟨y, more, hy, ih.mp hmore, (pure_eq_ok.mp h).symm⟩
    · rintro ⟨y, more, hy, hmore, rfl⟩
      exact ⟨y, hy, bind_eq_ok.mpr ⟨more, ih.mpr hmore, rfl⟩⟩

/-- A run over a list that starts from what a list has led to leads on to what both lead to together, as
long as each item is acceptable. -/
theorem foldlM_eq_ok {f : β → α → Built β} {ofList : List α → β} {P : α → Prop}
    (hstep : ∀ {xs : List α} {x : α} {b : β},
      f (ofList xs) x = .ok b ↔ P x ∧ ofList (xs ++ [x]) = b)
    {xs ys : List α} {b : β} :
    ys.foldlM f (ofList xs) = .ok b ↔ (∀ y ∈ ys, P y) ∧ ofList (xs ++ ys) = b := by
  induction ys generalizing xs with
  | nil => simp [pure, Except.pure]
  | cons y rest ih =>
    rw [List.foldlM_cons, bind_eq_ok, List.forall_mem_cons]
    constructor
    · rintro ⟨c, hy, h⟩
      obtain ⟨hacceptable, rfl⟩ := hstep.mp hy
      obtain ⟨hrest, rfl⟩ := ih.mp h
      exact ⟨⟨hacceptable, hrest⟩, by rw [List.append_assoc, List.singleton_append]⟩
    · rintro ⟨⟨hacceptable, hrest⟩, rfl⟩
      refine ⟨_, hstep.mpr ⟨hacceptable, rfl⟩, ih.mpr ⟨hrest, ?_⟩⟩
      rw [List.append_assoc, List.singleton_append]

/-- A run over a list succeeds exactly if each of its steps does, when that does not depend on what came
before it. -/
theorem exists_foldlM_iff {f : β → α → Except ε β} {P : α → Prop}
    (hstep : ∀ b x, (∃ c, f b x = .ok c) ↔ P x) {xs : List α} {b : β} :
    (∃ c, xs.foldlM f b = .ok c) ↔ ∀ x ∈ xs, P x := by
  induction xs generalizing b with
  | nil => simp [pure, Except.pure]
  | cons x rest ih =>
    rw [List.forall_mem_cons, ← hstep b x, List.foldlM_cons]
    cases f b x with
    | error e => simp [bind, Except.bind]
    | ok c => simpa [bind, Except.bind] using ih

/-- **What each step keeps** is kept by the whole run. -/
theorem foldlM_preserves {f : β → α → Except ε β} {P : β → Prop}
    (hstep : ∀ {b x c}, P b → f b x = .ok c → P c) {xs : List α} {b c : β}
    (h : xs.foldlM f b = .ok c) (hb : P b) : P c := by
  induction xs generalizing b with
  | nil =>
    obtain rfl := Except.ok.inj h
    exact hb
  | cons x rest ih =>
    obtain ⟨mid, hmid, hrest⟩ := bind_eq_ok.mp h
    exact ih hrest (hstep hb hmid)

/-- Steps that do nothing can be left out of a run. -/
theorem foldlM_filter {f : β → α → Except ε β} {p : α → Bool}
    (h : ∀ b x, p x = false → f b x = .ok b) (xs : List α) (b : β) :
    xs.foldlM f b = (xs.filter p).foldlM f b := by
  induction xs generalizing b with
  | nil => rfl
  | cons x rest ih =>
    cases hx : p x with
    | false =>
      rw [List.filter_cons_of_neg (by simp [hx]), ← ih b, List.foldlM_cons, h b x hx]
      rfl
    | true =>
      rw [List.filter_cons_of_pos hx, List.foldlM_cons, List.foldlM_cons]
      exact congrArg _ (funext ih)

theorem map_eq_error {x : Built α} {f : α → β} {fault : Fault} :
    x.map f = .error fault ↔ x = .error fault := by
  cases x <;> simp [Except.map]

/-! ### The first fault -/

/-- A result is a value exactly if it is no fault. -/
theorem exists_ok_iff {x : Built α} : (∃ a, x = .ok a) ↔ ∀ fault, x ≠ .error fault := by
  cases x <;> simp

/-- A chain fails where its first link does, and after that where the rest does. -/
theorem bind_eq_error {x : Built α} {f : α → Built β} {fault : Fault} :
    x >>= f = .error fault ↔ x = .error fault ∨ ∃ a, x = .ok a ∧ f a = .error fault := by
  cases x <;> simp [bind, Except.bind]

/-- **The first fault** of checks in order, each of which says what it finds wrong: one of them finds
it, and those before it find nothing. -/
def FirstFault (checks : List (Fault → Prop)) (fault : Fault) : Prop :=
  ∃ before check after, checks = before ++ check :: after ∧
    (∀ earlier ∈ before, ∀ other, ¬ earlier other) ∧ check fault

section

variable {check : Fault → Prop} {checks more : List (Fault → Prop)} {fault : Fault}

theorem not_firstFault_nil : ¬ FirstFault [] fault := by
  rintro ⟨before, check, after, h, -⟩
  cases before <;> cases h

theorem firstFault_cons : FirstFault (check :: checks) fault ↔
    check fault ∨ (∀ other, ¬ check other) ∧ FirstFault checks fault := by
  constructor
  · rintro ⟨before, found, after, h, hbefore, hfound⟩
    rcases List.cons_eq_append_iff.mp h with ⟨rfl, h⟩ | ⟨before, rfl, rfl⟩
    · obtain ⟨rfl, -⟩ := List.cons.inj h
      exact .inl hfound
    · obtain ⟨hcheck, hbefore⟩ := List.forall_mem_cons.mp hbefore
      exact .inr ⟨hcheck, before, found, after, rfl, hbefore, hfound⟩
  · rintro (h | ⟨hcheck, before, found, after, rfl, hbefore, hfound⟩)
    · exact ⟨[], check, checks, rfl, by simp, h⟩
    · exact ⟨check :: before, found, after, rfl, List.forall_mem_cons.mpr ⟨hcheck, hbefore⟩, hfound⟩

/-- Checks after others count where the others find nothing. -/
theorem firstFault_append : FirstFault (checks ++ more) fault ↔
    FirstFault checks fault ∨ (∀ check ∈ checks, ∀ other, ¬ check other) ∧ FirstFault more fault := by
  induction checks with
  | nil => simp [not_firstFault_nil]
  | cons check rest ih =>
    rw [List.cons_append, firstFault_cons, ih, firstFault_cons, List.forall_mem_cons]
    tauto

/-- There is a first fault exactly if some check finds one. -/
theorem exists_firstFault_iff : (∃ fault, FirstFault checks fault) ↔
    ∃ check ∈ checks, ∃ fault, check fault := by
  induction checks with
  | nil => simp [not_firstFault_nil]
  | cons check rest ih =>
    simp only [firstFault_cons, exists_or, exists_and_left, ih]
    by_cases h : ∃ fault, check fault
    · simp [h]
    · simp [not_exists.mp h]

/-- Checks that are passed over find nothing. -/
theorem firstFault_map_filter {p : α → Bool} {bad : α → Fault → Prop} {xs : List α} :
    FirstFault ((xs.filter p).map bad) fault ↔
      FirstFault (xs.map fun x other => p x = true ∧ bad x other) fault := by
  induction xs with
  | nil => rfl
  | cons x rest ih =>
    by_cases h : p x = true
    · rw [List.filter_cons_of_pos h, List.map_cons, List.map_cons, firstFault_cons, firstFault_cons, ih]
      simp [h]
    · rw [List.filter_cons_of_neg h, List.map_cons, firstFault_cons, ih]
      simp [h]

/-- **Checks of a chain**: those of its first link, and after them those of the rest. -/
theorem bind_eq_error_iff_firstFault {x : Built α} {f : α → Built β}
    (hx : ∀ {other}, x = .error other ↔ FirstFault checks other)
    (hf : ∀ a, x = .ok a → (f a = .error fault ↔ FirstFault more fault)) :
    x >>= f = .error fault ↔ FirstFault (checks ++ more) fault := by
  have hnone : (∃ a, x = .ok a) ↔ ∀ check ∈ checks, ∀ other, ¬ check other := by
    have hfound : (∃ other, x = .error other) ↔ ∃ check ∈ checks, ∃ other, check other := by
      rw [← exists_firstFault_iff]
      exact exists_congr fun _ => hx
    rw [exists_ok_iff]
    simpa using not_congr hfound
  rw [bind_eq_error, firstFault_append, hx, ← hnone]
  refine or_congr_right ?_
  constructor
  · rintro ⟨a, ha, h⟩
    exact ⟨⟨a, ha⟩, (hf a ha).mp h⟩
  · rintro ⟨⟨a, ha⟩, h⟩
    exact ⟨a, ha, (hf a ha).mpr h⟩

/-- A pass over a list fails at the first item that fails. -/
theorem mapM_eq_error {f : α → Built β} {xs : List α} :
    xs.mapM f = .error fault ↔ FirstFault (xs.map fun x other => f x = .error other) fault := by
  induction xs with
  | nil => simp [not_firstFault_nil, pure, Except.pure]
  | cons x rest ih =>
    rw [List.mapM_cons, bind_eq_error, List.map_cons, firstFault_cons, ← ih]
    refine or_congr_right ?_
    constructor
    · rintro ⟨b, hb, h⟩
      obtain h | ⟨_, -, h⟩ := bind_eq_error.mp h
      · exact ⟨exists_ok_iff.mp ⟨b, hb⟩, h⟩
      · cases h
    · rintro ⟨hx, h⟩
      obtain ⟨b, hb⟩ := exists_ok_iff.mpr hx
      exact ⟨b, hb, bind_eq_error.mpr (.inl h)⟩

/-- A run over a list that starts from what a list has led to fails at the first item that is wrong, if
each item that is not wrong is led on from. -/
theorem foldlM_eq_error {f : β → α → Built β} {ofList : List α → β} {bad : α → Fault → Prop}
    (hstep : ∀ {xs : List α} {x : α} {other : Fault},
      f (ofList xs) x = .error other ↔ bad x other)
    (hnext : ∀ {xs : List α} {x : α} {b : β}, f (ofList xs) x = .ok b → b = ofList (xs ++ [x]))
    {xs ys : List α} : ys.foldlM f (ofList xs) = .error fault ↔ FirstFault (ys.map bad) fault := by
  induction ys generalizing xs with
  | nil => simp [not_firstFault_nil, pure, Except.pure]
  | cons y rest ih =>
    rw [List.foldlM_cons, bind_eq_error, List.map_cons, firstFault_cons, hstep]
    refine or_congr_right ?_
    constructor
    · rintro ⟨b, hb, h⟩
      obtain rfl := hnext hb
      exact ⟨fun other hbad => exists_ok_iff.mp ⟨_, hb⟩ other (hstep.mpr hbad), ih.mp h⟩
    · rintro ⟨hy, h⟩
      obtain ⟨b, hb⟩ := exists_ok_iff.mpr fun other hother => hy other (hstep.mp hother)
      obtain rfl := hnext hb
      exact ⟨_, hb, ih.mpr h⟩

end

/-! ### Two results side by side -/

section

variable {x y : Built α} {p : α → γ} {q : β → δ}

/-- Two results show the same if they are the same fault, or values that show the same. -/
theorem map_eq_map : x.map p = y.map p ↔
    (∃ fault, x = .error fault ∧ y = .error fault) ∨
      ∃ a b, x = .ok a ∧ y = .ok b ∧ p a = p b := by
  cases x <;> cases y <;> simp [Except.map, eq_comm]

/-- Chains show the same if their first links do, and the rest does after links that do. -/
theorem map_bind_congr {f g : α → Built β} (h : x.map p = y.map p)
    (hrest : ∀ a b, p a = p b → (f a).map q = (g b).map q) :
    (x >>= f).map q = (y >>= g).map q := by
  obtain ⟨fault, rfl, rfl⟩ | ⟨a, b, rfl, rfl, hab⟩ := map_eq_map.mp h
  · rfl
  · exact hrest a b hab

/-- After a common first link only the rest has to show the same. -/
theorem map_bind_congr_right {f g : α → Built β} (hrest : ∀ a, (f a).map q = (g a).map q) :
    (x >>= f).map q = (x >>= g).map q := by
  cases x with
  | error fault => rfl
  | ok a => exact hrest a

/-- Results go on to show the same after functions that keep it. -/
theorem map_map_congr {f g : α → β} (h : x.map p = y.map p)
    (hkeep : ∀ a b, p a = p b → q (f a) = q (g b)) : (x.map f).map q = (y.map g).map q := by
  obtain ⟨fault, rfl, rfl⟩ | ⟨a, b, rfl, rfl, hab⟩ := map_eq_map.mp h
  · rfl
  · exact congrArg Except.ok (hkeep a b hab)

end

end ApiScaffold.Built
