import ApiScaffold.Description.Lookup
import ApiScaffold.Proofs.Built

/-!
# Found operations

An operation is found by its path and then by its method. Methods of an item are distinct, so each of its
entries is the one that its method finds, and an insertion shows only at its own method.
-/

namespace ApiScaffold

namespace PathItem

/-- Methods are distinct, so each entry is the one that its method finds. -/
theorem operation?_of_mem {item : PathItem} {m : Method} {o : Operation}
    (h : (m, o) ∈ item.operations) : item.operation? m = some o := by
  have hd := item.distinct
  unfold operation?
  generalize item.operations = operations at h hd
  induction operations with
  | nil => cases h
  | cons entry rest ih =>
    rw [List.map_cons, List.nodup_cons] at hd
    rcases List.mem_cons.mp h with rfl | h
    · simp
    · have hne : entry.1 ≠ m := by
        rintro rfl
        exact hd.1 (List.mem_map.mpr ⟨_, h, rfl⟩)
      rw [List.find?_cons_of_neg (by simpa using hne)]
      exact ih h hd.2

/-- An inserted operation is found under its own method, and under no other. -/
theorem operation?_insert (item : PathItem) (m other : Method) (o : Operation) :
    (item.insert m o).operation? other = if m = other then some o else item.operation? other := by
  unfold operation? insert
  dsimp only
  induction item.operations with
  | nil =>
    by_cases h : m = other <;> simp [insertOperation, h]
  | cons entry rest ih =>
    obtain ⟨k, v⟩ := entry
    by_cases hk : k = m
    · subst hk
      by_cases h : k = other <;> simp [insertOperation, h]
    · rw [insertOperation, if_neg hk]
      by_cases h : k = other
      · subst h
        simp [Ne.symm hk]
      · simpa [List.find?_cons_of_neg, h] using ih

end PathItem

namespace Description

variable {api : Description}

theorem pathItem_eq_ok {path : String} {item : PathItem} :
    api.pathItem path = .ok item ↔ api.paths.get? path = some item := by
  rw [pathItem]
  cases api.paths.get? path <;> simp

theorem operation_eq_ok {path : String} {method : Method} {operation : Operation} :
    api.operation path method = .ok operation ↔
      ∃ item, api.paths.get? path = some item ∧ item.operation? method = some operation := by
  rw [Description.operation, Built.bind_eq_ok]
  refine exists_congr fun item => and_congr pathItem_eq_ok ?_
  cases item.operation? method <;> simp

theorem operation_of_mem_active {path : String} {item : PathItem} {m : Method} {o : Operation}
    (hitem : api.pathItem path = .ok item) (h : (m, o) ∈ item.active) :
    api.operation path m = .ok o :=
  operation_eq_ok.mpr ⟨item, pathItem_eq_ok.mp hitem,
    PathItem.operation?_of_mem (List.mem_of_mem_filter h)⟩

end Description

end ApiScaffold
