/-!
# Entries in order

Objects and tables keep their keys in the order in which they were first written, and a key that is
written again replaces the value in place. `Entries` is the list of such pairs:

- `Entries.insert` replaces in place or appends;
- `Entries.ofPairs` reads pairs that may repeat a key;
- `Entries.get?` looks a key up.
-/

namespace ApiScaffold

/-- **Named values in order.** -/
abbrev Entries (α : Type) := List (String × α)

namespace Entries

variable {α β : Type}

/-- The value of the first entry with the key. -/
def get? : Entries α → String → Option α
  | [], _ => none
  | (k, v) :: rest, key => if k = key then some v else get? rest key

/-- Whether some entry has the key. -/
def hasKey (entries : Entries α) (key : String) : Bool := (get? entries key).isSome

/-- The keys in order. -/
def names (entries : Entries α) : List String := entries.map (·.1)

/-- **Insertion**: a key that is present keeps its place and takes the new value, a new key goes to
the end. -/
def insert : Entries α → String → α → Entries α
  | [], key, value => [(key, value)]
  | (k, v) :: rest, key, value =>
    if k = key then (k, value) :: rest else (k, v) :: insert rest key value

/-- The entries of pairs written one after the other. -/
def ofPairs (pairs : List (String × α)) : Entries α :=
  pairs.foldl (fun entries (key, value) => insert entries key value) []

/-- The same keys with other values. -/
def mapValues (f : α → β) (entries : Entries α) : Entries β :=
  entries.map fun (key, value) => (key, f value)

@[simp] theorem get?_nil (key : String) : get? ([] : Entries α) key = none := rfl

@[simp] theorem get?_insert_self (entries : Entries α) (key : String) (value : α) :
    get? (insert entries key value) key = some value := by
  induction entries with
  | nil => simp [insert, get?]
  | cons entry rest ih =>
    obtain ⟨k, v⟩ := entry
    by_cases h : k = key <;> simp [insert, get?, h, ih]

/-- A lookup of another key does not see an insertion. -/
theorem get?_insert_of_ne (entries : Entries α) {key other : String} (value : α)
    (h : key ≠ other) : get? (insert entries key value) other = get? entries other := by
  induction entries with
  | nil => simp [insert, get?, h]
  | cons entry rest ih =>
    obtain ⟨k, v⟩ := entry
    by_cases hk : k = key
    · subst hk; simp [insert, get?, h]
    · by_cases ho : k = other
      · subst ho; simp [insert, get?, hk]
      · simp [insert, get?, hk, ho, ih]

/-- A key can be looked up exactly if some entry has it. -/
theorem exists_get?_eq_some_iff {entries : Entries α} {key : String} :
    (∃ value, get? entries key = some value) ↔ key ∈ names entries := by
  induction entries with
  | nil => simp [names]
  | cons entry rest ih =>
    obtain ⟨k, v⟩ := entry
    rw [names, List.map_cons, List.mem_cons]
    by_cases h : k = key
    · simp [get?, h]
    · simp [get?, h, Ne.symm h, ih, names]

theorem get?_eq_none_iff {entries : Entries α} {key : String} :
    get? entries key = none ↔ key ∉ names entries := by
  rw [← exists_get?_eq_some_iff, ← Option.not_isSome_iff_eq_none, Option.isSome_iff_exists]

theorem names_append (entries more : Entries α) :
    names (entries ++ more) = names entries ++ names more := List.map_append

theorem mem_of_get? {entries : Entries α} {key : String} {value : α}
    (h : get? entries key = some value) : (key, value) ∈ entries := by
  induction entries with
  | nil => cases h
  | cons entry rest ih =>
    obtain ⟨k, v⟩ := entry
    rw [get?] at h
    split at h
    next hk =>
      obtain rfl := hk
      obtain rfl := Option.some.inj h
      exact List.mem_cons_self
    next => exact List.mem_cons_of_mem _ (ih h)

/-- Entries before others hide those with the same key. -/
theorem get?_append (entries more : Entries α) (key : String) :
    get? (entries ++ more) key = (get? entries key).or (get? more key) := by
  induction entries with
  | nil => rfl
  | cons entry rest ih =>
    obtain ⟨k, v⟩ := entry
    by_cases h : k = key
    · simp [get?, h]
    · simpa [get?, h] using ih

/-- Under distinct keys the first entry of a key is also the last. -/
theorem get?_reverse {entries : Entries α} (h : (names entries).Nodup) (key : String) :
    get? entries.reverse key = get? entries key := by
  induction entries with
  | nil => rfl
  | cons entry rest ih =>
    obtain ⟨k, v⟩ := entry
    obtain ⟨hk, hrest⟩ := List.nodup_cons.mp h
    rw [List.reverse_cons, get?_append, ih hrest]
    by_cases hkey : k = key
    · subst hkey
      have hnone : get? rest k = none := get?_eq_none_iff.mpr hk
      simp [get?, hnone]
    · simp [get?, hkey]

theorem mem_names_insert {entries : Entries α} {key other : String} {value : α} :
    other ∈ names (insert entries key value) ↔ other = key ∨ other ∈ names entries := by
  induction entries with
  | nil => simp [insert, names]
  | cons entry rest ih =>
    obtain ⟨k, v⟩ := entry
    by_cases h : k = key
    · simp [insert, names, h]
    · simp only [insert, if_neg h, names, List.map_cons, List.mem_cons] at ih ⊢
      rw [ih, or_left_comm]

/-- Insertion does not repeat a key. -/
theorem nodup_insert {entries : Entries α} (h : (names entries).Nodup) (key : String) (value : α) :
    (names (insert entries key value)).Nodup := by
  induction entries with
  | nil => simp [insert, names]
  | cons entry rest ih =>
    obtain ⟨k, v⟩ := entry
    obtain ⟨hk, hrest⟩ := List.nodup_cons.mp h
    rw [insert]
    by_cases hkey : k = key
    · subst hkey
      rw [if_pos rfl]
      exact h
    · rw [if_neg hkey]
      refine List.nodup_cons.mpr ⟨fun hmem => ?_, ih hrest⟩
      rcases mem_names_insert.mp hmem with heq | hmem
      · exact hkey heq
      · exact hk hmem

theorem mem_insert {entries : Entries α} {key : String} {value : α} {entry : String × α}
    (h : entry ∈ insert entries key value) : entry = (key, value) ∨ entry ∈ entries := by
  induction entries with
  | nil => exact .inl (List.mem_singleton.mp h)
  | cons first rest ih =>
    obtain ⟨k, v⟩ := first
    rw [insert] at h
    split at h
    · rcases List.mem_cons.mp h with rfl | h
      · rename_i hk
        exact .inl (by rw [hk])
      · exact .inr (List.mem_cons_of_mem _ h)
    · rcases List.mem_cons.mp h with rfl | h
      · exact .inr List.mem_cons_self
      · exact (ih h).imp_right (List.mem_cons_of_mem _)

/-- A new key goes to the end. -/
theorem insert_of_not_mem {entries : Entries α} {key : String} (h : key ∉ names entries)
    (value : α) : insert entries key value = entries ++ [(key, value)] := by
  induction entries with
  | nil => rfl
  | cons entry rest ih =>
    obtain ⟨k, v⟩ := entry
    rw [names, List.map_cons, List.mem_cons, not_or] at h
    rw [insert, if_neg (Ne.symm h.1), ih h.2, List.cons_append]

/-- Under distinct keys every entry is the one that its key finds. -/
theorem get?_eq_some_iff {entries : Entries α} (h : (names entries).Nodup) {key : String}
    {value : α} : get? entries key = some value ↔ (key, value) ∈ entries := by
  induction entries with
  | nil => simp
  | cons entry rest ih =>
    obtain ⟨k, v⟩ := entry
    obtain ⟨hk, hrest⟩ := List.nodup_cons.mp h
    rw [get?, List.mem_cons, Prod.mk.injEq]
    by_cases hkey : k = key
    · subst hkey
      have hnot : (k, value) ∉ rest := fun hmem => hk (List.mem_map.mpr ⟨_, hmem, rfl⟩)
      simp [hnot, eq_comm]
    · rw [if_neg hkey, ih hrest]
      simp [Ne.symm hkey]

/-! ### Pairs written one after the other -/

/-- Entries of pairs have distinct keys. -/
theorem nodup_ofPairs (pairs : List (String × α)) : (names (ofPairs pairs)).Nodup := by
  refine List.foldlRecOn pairs _ (motive := fun entries => (names entries).Nodup) ?_ ?_
  · exact List.nodup_nil
  · exact fun entries h pair _ => nodup_insert h pair.1 pair.2

/-- Entries of pairs are among the pairs. -/
theorem mem_of_mem_ofPairs {pairs : List (String × α)} {entry : String × α}
    (h : entry ∈ ofPairs pairs) : entry ∈ pairs := by
  suffices ∀ entry ∈ ofPairs pairs, entry ∈ pairs from this entry h
  refine List.foldlRecOn pairs _ (motive := fun entries => ∀ entry ∈ entries, entry ∈ pairs) ?_ ?_
  · exact fun _ h => nomatch h
  · intro entries h pair hpair entry hentry
    rcases mem_insert hentry with rfl | hentry
    · exact hpair
    · exact h entry hentry

/-- Pairs with new and distinct keys go to the end in their order. -/
theorem foldl_insert_of_nodup (pairs : List (String × α)) {before : Entries α}
    (h : (names (before ++ pairs)).Nodup) :
    pairs.foldl (fun entries (key, value) => insert entries key value) before = before ++ pairs := by
  induction pairs generalizing before with
  | nil => exact (List.append_nil before).symm
  | cons pair rest ih =>
    obtain ⟨k, v⟩ := pair
    have hnew : k ∉ names before := by
      intro hmem
      rw [names, List.map_append] at h
      exact (List.nodup_append.mp h).2.2 k hmem k List.mem_cons_self rfl
    have hrest : (names (before ++ [(k, v)] ++ rest)).Nodup := by simpa using h
    rw [List.foldl_cons]
    dsimp only
    rw [insert_of_not_mem hnew, ih hrest, List.append_assoc, List.singleton_append]

/-- **Pairs with distinct keys** are entries as they are. -/
theorem ofPairs_of_nodup {pairs : List (String × α)} (h : (names pairs).Nodup) :
    ofPairs pairs = pairs := by
  have hall : (names ([] ++ pairs)).Nodup := h
  exact foldl_insert_of_nodup pairs hall

end Entries

end ApiScaffold
