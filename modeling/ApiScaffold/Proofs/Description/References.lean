import ApiScaffold.Description.Lookup
import ApiScaffold.Proofs.Built
import Mathlib.Data.List.Perm.Subperm

/-!
# References between schemas

A schema that refers to a definition leads on to it, and the definition may refer on in its turn. The
chain (`Description.Chain`) ends at a schema without a reference, at a reference to something other than a
definition, or at the name of a definition that nobody declares; or it never ends.

`Description.resolveSchema` follows the chain for a bounded number of hops. The bound cuts no chain short:
one that ends goes through no definition twice (`Chain.nodup`), so it has at most as many hops as there are
definitions (`Chain.length_le`). What is left when the hops run out never ends.
-/

namespace ApiScaffold.Description

variable {api : Description} {start schema next last : Json} {name target : String}
  {names : List String}

/-! ### Names below a root -/

/-- A name below a root is what follows the root. -/
theorem nameBelow?_eq_some_iff {root : String} :
    nameBelow? root target = some name ↔ target = root ++ name := by
  have hlist : target = root ++ name ↔ target.toList = root.toList ++ name.toList := by
    rw [← String.toList_append, String.toList_inj]
  rw [nameBelow?, hlist]
  by_cases h : root.toList <+: target.toList
  · obtain ⟨rest, hrest⟩ := h
    simp [← hrest, ← String.toList_inj]
  · have hne : target.toList ≠ root.toList ++ name.toList := by
      intro heq
      exact h ⟨name.toList, heq.symm⟩
    simp [h, hne]

theorem nameBelow?_eq_none_iff {root : String} :
    nameBelow? root target = none ↔ ∀ name, target ≠ root ++ name := by
  simp [Option.eq_none_iff_forall_not_mem, nameBelow?_eq_some_iff]

/-! ### Chains -/

/-- **A hop**: a schema refers to a name, and this is what is defined under it. -/
def RefersTo (api : Description) (schema : Json) (name : String) (next : Json) : Prop :=
  schemaReference? schema = some (definitionsRoot ++ name) ∧ api.definitions.get? name = some next

/-- **A chain of hops** from one schema to another, with the names it goes through. -/
inductive Chain (api : Description) : Json → List String → Json → Prop
  | nil (schema : Json) : Chain api schema [] schema
  | cons {schema next last : Json} {name : String} {names : List String} :
      api.RefersTo schema name next → Chain api next names last →
        Chain api schema (name :: names) last

/-- Whether a chain is over at a schema. -/
def IsLast (api : Description) (schema : Json) : Prop := ∀ name next, ¬ api.RefersTo schema name next

/-- **A chain without end**: wherever it has come to, it goes on. -/
def NeverEnds (api : Description) (start : Json) : Prop :=
  ∀ names schema, api.Chain start names schema → ¬ api.IsLast schema

/-- **What the chain of a schema comes to**: the first schema that is no reference, the fault of the first
reference that names no definition, or a cycle if there is no end to it. -/
inductive ComesTo (api : Description) (start : Json) : Built Json → Prop
  | concrete {names : List String} {schema : Json} :
      api.Chain start names schema → schemaReference? schema = none →
        ComesTo api start (.ok schema)
  | unexpected {names : List String} {schema : Json} {target : String} :
      api.Chain start names schema → schemaReference? schema = some target →
        (∀ name, target ≠ definitionsRoot ++ name) →
          ComesTo api start (.error (.description (.unexpectedSchemaReference target)))
  | unknown {names : List String} {schema : Json} {name : String} :
      api.Chain start names schema →
        schemaReference? schema = some (definitionsRoot ++ name) →
          api.definitions.get? name = none →
            ComesTo api start (.error (.description (.unknownSchema name)))
  | cycle : api.NeverEnds start → ComesTo api start (.error (.description .schemaCycle))

/-! ### Hops are determined -/

theorem eq_of_append_root {root other : String} (h : root ++ name = root ++ other) :
    name = other := by
  simpa [← String.toList_inj] using h

/-- A schema refers to one name, and one schema is defined under it. -/
theorem RefersTo.unique {other : String} {next' : Json} (h : api.RefersTo schema name next)
    (h' : api.RefersTo schema other next') : name = other ∧ next = next' := by
  obtain ⟨hname, hnext⟩ := h
  obtain ⟨hother, hnext'⟩ := h'
  obtain rfl := eq_of_append_root (Option.some.inj (hname.symm.trans hother))
  exact ⟨rfl, Option.some.inj (hnext.symm.trans hnext')⟩

/-- Two chains from one schema that are both over have gone the same way. -/
theorem Chain.unique {names' : List String} {last' : Json} (h : api.Chain start names last)
    (h' : api.Chain start names' last') (hlast : api.IsLast last) (hlast' : api.IsLast last') :
    names = names' := by
  induction h generalizing names' with
  | nil schema =>
    cases h' with
    | nil => rfl
    | cons hop _ => exact absurd hop (hlast _ _)
  | cons hop _ ih =>
    cases h' with
    | nil => exact absurd hop (hlast' _ _)
    | cons hop' rest' =>
      obtain ⟨rfl, rfl⟩ := hop.unique hop'
      rw [ih rest' hlast]

/-! ### Ends are reached soon -/

/-- From a definition that a chain goes through, the rest of the chain is a shorter one. -/
theorem Chain.exists_after (h : api.Chain start names last) (hname : name ∈ names) :
    ∃ next after, api.definitions.get? name = some next ∧ api.Chain next after last ∧
      after.length < names.length := by
  induction h with
  | nil => cases hname
  | cons hop rest ih =>
    rcases List.mem_cons.mp hname with rfl | hname
    · exact ⟨_, _, hop.2, rest, by simp⟩
    · obtain ⟨next, after, hnext, hafter, hlt⟩ := ih hname
      refine ⟨next, after, hnext, hafter, ?_⟩
      rw [List.length_cons]
      omega

/-- **A chain that ends goes through no definition twice**: from there it would go the same way again,
and end sooner than it does. -/
theorem Chain.nodup (h : api.Chain start names last) (hlast : api.IsLast last) : names.Nodup := by
  induction h with
  | nil => exact List.nodup_nil
  | cons hop rest ih =>
    refine List.nodup_cons.mpr ⟨?_, ih hlast⟩
    intro hmem
    obtain ⟨next', after, hnext', hafter, hlt⟩ := rest.exists_after hmem
    obtain rfl := Option.some.inj (hop.2.symm.trans hnext')
    rw [rest.unique hafter hlast hlast] at hlt
    omega

/-- All names on a chain are defined. -/
theorem Chain.subset (h : api.Chain start names last) : names ⊆ api.definitions.names := by
  intro name hname
  obtain ⟨next, _, hnext, -, -⟩ := h.exists_after hname
  exact Entries.exists_get?_eq_some_iff.mp ⟨next, hnext⟩

/-- **A chain that ends has no more hops than there are definitions.** Its names are distinct, because a
name that came back would lead on in the same way for ever. -/
theorem Chain.length_le (h : api.Chain start names last) (hlast : api.IsLast last) :
    names.length ≤ api.definitions.length := by
  have hle := ((h.nodup hlast).subperm h.subset).length_le
  rwa [Entries.names, List.length_map] at hle

/-! ### Following -/

variable {steps : Nat}

/-- A hop takes one step. -/
theorem followSchema_of_refersTo (h : api.RefersTo schema name next) :
    api.followSchema (steps + 1) schema = api.followSchema steps next := by
  obtain ⟨hreference, hnext⟩ := h
  have hbelow : nameBelow? definitionsRoot (definitionsRoot ++ name) = some name :=
    nameBelow?_eq_some_iff.mpr rfl
  simp only [followSchema, hreference, referencedSchema, hbelow, hnext, Built.ok_bind]

/-- **Following a chain** takes a step for each hop, and goes on from where the chain has come to. -/
theorem Chain.followSchema (h : api.Chain start names last) :
    api.followSchema (names.length + steps) start = api.followSchema steps last := by
  induction h with
  | nil => simp
  | cons hop _ ih =>
    rw [← ih, List.length_cons, Nat.add_right_comm, followSchema_of_refersTo hop]

/-- Where a chain ends, one step is left to see it. -/
theorem Chain.exists_resolveSchema_eq (h : api.Chain start names last) (hlast : api.IsLast last) :
    ∃ steps, api.resolveSchema start = api.followSchema (steps + 1) last := by
  have hle := h.length_le hlast
  refine ⟨api.definitions.length - names.length, ?_⟩
  rw [← h.followSchema, resolveSchema]
  congr 1
  omega

/-- A chain without end goes on after a hop. -/
theorem NeverEnds.after_hop (h : api.NeverEnds start) (hop : api.RefersTo start name next) :
    api.NeverEnds next := by
  intro names schema hchain
  exact h _ _ (.cons hop hchain)

/-- On a chain without end all steps are used up. -/
theorem NeverEnds.followSchema (h : api.NeverEnds start) :
    api.followSchema steps start = .error (.description .schemaCycle) := by
  induction steps generalizing start with
  | zero => rfl
  | succ steps ih =>
    have hnot := h [] start (.nil start)
    simp only [IsLast, not_forall, not_not] at hnot
    obtain ⟨name, next, hop⟩ := hnot
    rw [followSchema_of_refersTo hop, ih (h.after_hop hop)]

/-! ### What resolving gives -/

theorem isLast_of_concrete (h : schemaReference? schema = none) : api.IsLast schema := by
  rintro name next ⟨hreference, -⟩
  rw [h] at hreference
  cases hreference

theorem isLast_of_unexpected (h : schemaReference? schema = some target)
    (htarget : ∀ name, target ≠ definitionsRoot ++ name) : api.IsLast schema := by
  rintro name next ⟨hreference, -⟩
  exact htarget name (Option.some.inj (h.symm.trans hreference))

theorem isLast_of_unknown (h : schemaReference? schema = some (definitionsRoot ++ name))
    (hname : api.definitions.get? name = none) : api.IsLast schema := by
  rintro other next ⟨hreference, hnext⟩
  obtain rfl := eq_of_append_root (Option.some.inj (h.symm.trans hreference))
  rw [hname] at hnext
  cases hnext

/-- **Resolving gives what the chain comes to**, be it a schema or a fault. The number of steps that the
loop allows itself is one more than there are schemas, and no chain without a cycle is longer. -/
theorem ComesTo.resolveSchema_eq {result : Built Json} (h : api.ComesTo start result) :
    api.resolveSchema start = result := by
  cases h with
  | concrete hchain hconcrete =>
    obtain ⟨steps, heq⟩ := hchain.exists_resolveSchema_eq (isLast_of_concrete hconcrete)
    rw [heq, Description.followSchema, hconcrete]
  | unexpected hchain hreference htarget =>
    obtain ⟨steps, heq⟩ :=
      hchain.exists_resolveSchema_eq (isLast_of_unexpected hreference htarget)
    have hbelow := nameBelow?_eq_none_iff.mpr htarget
    rw [heq]
    simp only [Description.followSchema, hreference, referencedSchema, hbelow, Built.error_bind]
  | @unknown _ _ name hchain hreference hname =>
    obtain ⟨steps, heq⟩ := hchain.exists_resolveSchema_eq (isLast_of_unknown hreference hname)
    have hbelow : nameBelow? definitionsRoot (definitionsRoot ++ name) = some name :=
      nameBelow?_eq_some_iff.mpr rfl
    rw [heq]
    simp only [Description.followSchema, hreference, referencedSchema, hbelow, hname,
      Built.error_bind]
  | cycle hnever => exact hnever.followSchema

/-- Every chain comes to something: at its last schema either there is no reference, or it has a name
below the definitions or none. -/
theorem exists_comesTo (api : Description) (start : Json) : ∃ result, api.ComesTo start result := by
  by_cases hnever : api.NeverEnds start
  · exact ⟨_, .cycle hnever⟩
  simp only [NeverEnds, not_forall, not_not] at hnever
  obtain ⟨names, schema, hchain, hlast⟩ := hnever
  rcases hreference : schemaReference? schema with _ | target
  · exact ⟨_, .concrete hchain hreference⟩
  rcases hbelow : nameBelow? definitionsRoot target with _ | name
  · exact ⟨_, .unexpected hchain hreference (nameBelow?_eq_none_iff.mp hbelow)⟩
  obtain rfl := nameBelow?_eq_some_iff.mp hbelow
  rcases hname : api.definitions.get? name with _ | next
  · exact ⟨_, .unknown hchain hreference hname⟩
  · exact absurd ⟨hreference, hname⟩ (hlast name next)

/-- **References are followed exactly.** Resolving a schema gives a schema exactly if the chain of
references reaches it, after any number of hops, and it is the first that is no reference; it fails with an
unexpected reference or an unknown name exactly if that is what the chain first runs into; and with a cycle
exactly if the chain never ends. So a chain that ends is not taken for a cycle, however long it is. -/
theorem resolveSchema_eq_iff_comesTo (api : Description) (start : Json) :
    (∀ result, api.resolveSchema start = result ↔ api.ComesTo start result) ∧
      ∀ names schema, api.Chain start names schema → api.IsLast schema →
        api.resolveSchema start ≠ .error (.description .schemaCycle) := by
  have hiff : ∀ result, api.resolveSchema start = result ↔ api.ComesTo start result := by
    intro result
    refine ⟨?_, ComesTo.resolveSchema_eq⟩
    rintro rfl
    obtain ⟨result, h⟩ := exists_comesTo api start
    rwa [h.resolveSchema_eq]
  refine ⟨hiff, ?_⟩
  intro names schema hchain hlast heq
  cases (hiff _).mp heq with
  | cycle hnever => exact hnever names schema hchain hlast

/-- A chain through all definitions is followed to its end. -/
example :
    ({ definitions := [("Pet", .obj [("$ref", .str "#/definitions/Animal")]), ("Animal", .obj [])] } :
      Description).resolveSchema (.obj [("$ref", .str "#/definitions/Pet")]) = .ok (.obj []) := by
  cbv

end ApiScaffold.Description
