import ApiScaffold.Proofs.Data.Json
import ApiScaffold.Proofs.Data.Record
import ApiScaffold.Proofs.Json.Exact

/-!
# Data with proper numbers

A text may spell any number, but a reader rounds it to a binary64 number in its normal form. Data in which it always
did (`Data.AllLeaves Leaf.IsProper`) has proper JSON values only (`Data.isProper_of_toJson?`), and data of proper
values is such data again. So is whatever is found in such data, under a key or at a position: the values of a
description are as proper as the text that they come from.
-/

namespace ApiScaffold

/-- **Proper leaves**: a number other than an integer is in its normal form. -/
def Leaf.IsProper : Leaf → Prop
  | .float x => x.IsCanonical
  | _ => True

namespace Data

/-- **Values of proper data** are proper: a number comes from a leaf, and arrays and objects add none.
-/
theorem isProper_of_toJson? {d : Data} {v : Json} (hd : d.AllLeaves Leaf.IsProper)
    (h : d.toJson? = some v) : v.IsProper := by
  refine AllLeaves.toJson? ?_ .arr (fun _ => .obj) hd h
  intro l v hl h
  cases l <;> cases h
  case float x => exact .float hl
  all_goals constructor

/-- **Data of proper values** is proper, so a value may be taken to data and decoded again without a
loss. -/
theorem allLeaves_ofJson {v : Json} (h : v.IsProper) : (ofJson v).AllLeaves Leaf.IsProper := by
  induction h with
  | float hx => exact .leaf hx
  | arr _ ih =>
    rw [ofJson, ofJsonItems_eq_map]
    exact .seq _ (List.forall_mem_map.mpr ih)
  | obj _ ih =>
    rw [ofJson, ofJsonFields_eq_map]
    exact .map _ (List.forall_mem_map.mpr ih)
  | _ => exact .leaf trivial

/-! ### Parts of data -/

namespace AllLeaves

variable {p : Leaf → Prop} {d x : Data}

theorem unlabelled (h : d.AllLeaves p) : d.unlabelled.AllLeaves p := by
  induction h with
  | labelled _ _ ih => exact ih
  | leaf h => exact .leaf h
  | scalar h => exact .scalar h
  | seq format h _ => exact .seq format h
  | map format h _ => exact .map format h
  | looseMap h _ => exact .looseMap h

theorem fields? {fields : List (String × Data)} (h : d.AllLeaves p) (hfields : d.fields? = some fields) :
    ∀ f ∈ fields, f.2.AllLeaves p := by
  have hd := h.unlabelled
  rw [Data.fields?] at hfields
  split at hfields
  next heq =>
    obtain rfl := Option.some.inj hfields
    rw [heq] at hd
    cases hd with
    | map _ hparts => exact hparts
  next heq =>
    obtain rfl := Option.some.inj hfields
    rw [heq] at hd
    cases hd with
    | looseMap hparts => exact hparts
  next => cases hfields

/-- What a record declares for a field has the leaves of the record. -/
theorem declared? {names : List String} {name : String} (h : d.AllLeaves p)
    (hx : d.declared? names name = some x) : x.AllLeaves p := by
  rw [Data.declared?] at hx
  split at hx
  next fields hfields => exact h.fields? hfields _ (Entries.mem_of_get? hx)
  next =>
    split at hx
    next format items heq =>
      have hd := h.unlabelled
      rw [heq] at hd
      cases hd with
      | seq _ hparts => exact hparts _ (List.of_mem_zip (Entries.mem_of_get? hx)).2
    next => cases hx

/-- What is written under a name has the leaves of the whole. -/
theorem last? {name : String} (h : d.AllLeaves p) (hx : d.last? name = some x) : x.AllLeaves p := by
  obtain ⟨fields, hfields, hget⟩ := Option.bind_eq_some_iff.mp hx
  exact h.fields? hfields _ (List.mem_reverse.mp (Entries.mem_of_get? hget))

end AllLeaves

end Data

end ApiScaffold
