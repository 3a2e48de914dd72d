import ApiScaffold.Proofs.Data.Proper
import ApiScaffold.Yaml.Reader

/-!
# Numbers that are read from YAML text

A scalar is a number by its spelling, and the decimal that it spells is rounded once (`Binary64.ofDecimal?`). So
every leaf is proper, whatever its tag and style are (`isProper_taggedLeaf`), and reading only gathers leaves: the
state of a reading is the number of jumps that are left, and how many are left is no matter for what is read
(`Node.Reading.Gives`). The data of a text is therefore proper (`allLeaves_readData?`).
-/

namespace ApiScaffold.Yaml

variable {s : String} {l : Leaf}

/-! ### Leaves -/

/-- A decimal is rounded, wherever its point stands. -/
theorem isCanonical_of_decimal? {negative : Bool} {cs : List Char} {x : Binary64}
    (h : decimal? negative cs = some x) : x.IsCanonical := by
  rw [decimal?] at h
  obtain ⟨digits, -, h⟩ := Option.bind_eq_some_iff.mp h
  obtain ⟨e, -, h⟩ := Option.bind_eq_some_iff.mp h
  exact Binary64.isCanonical_of_ofDecimal? h

/-- **A float** is not finite, or a decimal with or without a sign, and a decimal was rounded. -/
theorem isProper_of_float? (h : float? s = some l) : l.IsProper := by
  have hdecimal {negative : Bool} {cs : List Char}
      (h : (decimal? negative cs).map Leaf.float = some l) : l.IsProper := by
    obtain ⟨x, hx, rfl⟩ := Option.map_eq_some_iff.mp h
    exact isCanonical_of_decimal? hx
  have hspecial (h : some Leaf.nonFinite = some l) : l.IsProper := by
    cases h
    trivial
  rw [float?] at h
  split at h
  · exact hspecial h
  · split at h
    · split at h
      · exact hspecial h
      · exact hdecimal h
    · split at h
      · exact hspecial h
      · exact hdecimal h
    · exact hdecimal h

/-- Integers are exact, and those that are too large for a reader are unreadable. -/
theorem isProper_of_integerLeafOf? (h : integerLeafOf? s = some l) : l.IsProper := by
  obtain ⟨n, -, h⟩ := Option.bind_eq_some_iff.mp h
  rw [integerLeaf?] at h
  split at h
  · cases h
    trivial
  · split at h <;> cases h
    trivial

theorem isProper_of_nullLeaf? (h : nullLeaf? s = some l) : l.IsProper := by
  obtain ⟨-, h⟩ := Option.ite_none_right_eq_some.mp h
  cases h
  trivial

theorem isProper_of_flagText? (h : (Data.flagText? s).map Leaf.bool = some l) : l.IsProper := by
  obtain ⟨b, -, rfl⟩ := Option.map_eq_some_iff.mp h
  trivial

/-- Where a spelling does not fit, a proper leaf stands in for it. -/
theorem isProper_getD {o : Option Leaf} (h : ∀ l, o = some l → l.IsProper) (hl : l.IsProper) :
    (o.getD l).IsProper := by
  cases o with
  | none => exact hl
  | some l => exact h l rfl

/-- The second of two spellings is asked for only where the first does not fit. -/
theorem isProper_orElse {o o' : Option Leaf} (ho : ∀ l, o = some l → l.IsProper)
    (ho' : ∀ l, o' = some l → l.IsProper) : ∀ l, (o.orElse fun _ => o') = some l → l.IsProper := by
  cases o with
  | none => exact ho'
  | some l => exact ho

/-- **A plain scalar** is the first of the types that its spelling fits, or else a text. -/
theorem isProper_plainLeaf (s : String) : (plainLeaf s).IsProper := by
  have hfloat : ∀ l, (if hasNeedlessZeros s.toList then none else float? s) = some l → l.IsProper :=
    fun l h => isProper_of_float? (Option.ite_none_left_eq_some.mp h).2
  rw [plainLeaf]
  split
  · trivial
  · exact isProper_getD (isProper_orElse (isProper_orElse (isProper_orElse
      (fun _ => isProper_of_nullLeaf?) fun _ => isProper_of_flagText?)
      fun _ => isProper_of_integerLeafOf?) hfloat) trivial

/-- Without a tag, only plain scalars may be numbers. -/
theorem isProper_untaggedLeaf (s : String) (style : ScalarStyle) : (untaggedLeaf s style).IsProper := by
  rw [untaggedLeaf]
  split
  · exact isProper_plainLeaf s
  · trivial

/-- **The leaf of a scalar** is proper, whatever its tag asks for. -/
theorem isProper_taggedLeaf (tag : List UInt8) (s : String) (style : ScalarStyle) :
    (taggedLeaf tag s style).IsProper := by
  rw [taggedLeaf]
  cases typeTag tag with
  | bool => exact isProper_getD (fun _ => isProper_of_flagText?) trivial
  | int => exact isProper_getD (fun _ => isProper_of_integerLeafOf?) trivial
  | float => exact isProper_getD (fun _ => isProper_of_float?) trivial
  | null => exact isProper_getD (fun _ => isProper_of_nullLeaf?) trivial
  | other =>
    dsimp only
    split
    · exact isProper_untaggedLeaf s style
    · trivial

theorem isProper_scalarOf (tag : Option (List UInt8)) (s : String) (style : ScalarStyle) :
    (scalarOf tag s style).leaf.IsProper := by
  cases tag with
  | none => exact isProper_untaggedLeaf s style
  | some tag => exact isProper_taggedLeaf tag s style

/-- Data of a scalar is proper, with or without a label around it. -/
theorem allLeaves_scalarData (tag : Option (List UInt8)) (s : String) (style : ScalarStyle) :
    (scalarData tag s style).AllLeaves Leaf.IsProper := by
  rw [scalarData]
  split
  · exact .labelled _ (.scalar (isProper_scalarOf none s style))
  · exact .scalar (isProper_scalarOf tag s style)

/-! ### Collections -/

variable {p : Leaf → Prop}

theorem allLeaves_labelledBy (tag : Option (List UInt8)) {d : Data} (h : d.AllLeaves p) :
    (labelledBy tag d).AllLeaves p := by
  rw [labelledBy]
  split
  · exact .labelled _ h
  · exact h

/-- Neither does a map: keys are texts and no leaves of it. -/
theorem allLeaves_mapData {fields : List (Key × Data)} (h : ∀ f ∈ fields, f.2.AllLeaves p) :
    (mapData fields).AllLeaves p := by
  rw [mapData]
  dsimp only
  split
  · exact .map _ (List.forall_mem_map.mpr h)
  · exact .looseMap (List.forall_mem_map.mpr h)

namespace Node

namespace Reading

variable {α β : Type} {P : α → Prop} {Q : β → Prop} {r : Reading α} {f : α → Reading β}

/-- **What a reading gives**, whatever the number of jumps that are left. -/
def Gives (P : α → Prop) (r : Reading α) : Prop :=
  ∀ jumps a left, r.run jumps = some (a, left) → P a

theorem gives_pure {a : α} (h : P a) : Gives P (pure a) := by
  intro jumps b left hrun
  cases hrun
  exact h

theorem gives_failure : Gives P (failure : Reading α) := by
  intro jumps a left hrun
  cases hrun

/-- Readings one after the other. -/
theorem Gives.bind (hr : Gives P r) (hf : ∀ a, P a → Gives Q (f a)) : Gives Q (r >>= f) := by
  intro jumps b left hrun
  obtain ⟨⟨a, mid⟩, ha, hrun⟩ := Option.bind_eq_some_iff.mp hrun
  exact hf a (hr jumps a mid ha) mid b left hrun

/-- What follows a reading may not depend on what was read. -/
theorem gives_bind (hf : ∀ a, Gives Q (f a)) : Gives Q (r >>= f) :=
  Gives.bind (P := fun _ => True) (fun _ _ _ _ => trivial) fun a _ => hf a

/-- **A pass over a list** gives what each of its items gives, although each leaves fewer jumps for the
next. -/
theorem gives_mapM {xs : List α} (hf : ∀ a ∈ xs, Gives Q (f a)) : Gives (∀ b ∈ ·, Q b) (xs.mapM f) := by
  induction xs with
  | nil => exact gives_pure (List.forall_mem_nil _)
  | cons a rest ih =>
    obtain ⟨ha, hrest⟩ := List.forall_mem_cons.mp hf
    rw [List.mapM_cons]
    exact ha.bind fun b hb => (ih hrest).bind fun bs hbs => gives_pure (List.forall_mem_cons.mpr ⟨hb, hbs⟩)

/-- The same of a pass that may skip items. -/
theorem gives_filterMapM {f : α → Reading (Option β)} {xs : List α}
    (hf : ∀ a ∈ xs, Gives (fun o => ∀ b, o = some b → Q b) (f a)) :
    Gives (∀ b ∈ ·, Q b) (xs.filterMapM f) := by
  induction xs with
  | nil => exact gives_pure (List.forall_mem_nil _)
  | cons a rest ih =>
    obtain ⟨ha, hrest⟩ := List.forall_mem_cons.mp hf
    rw [List.filterMapM_cons]
    refine ha.bind fun o ho => ?_
    cases o with
    | none => exact ih hrest
    | some b =>
      exact (ih hrest).bind fun bs hbs => gives_pure (List.forall_mem_cons.mpr ⟨ho b rfl, hbs⟩)

end Reading

open Reading

/-- **Data of a node** is proper, wherever its aliases lead and whatever is skipped. -/
theorem gives_toData? (d : Document) (levels : Nat) (outline : Outline) (n : Node) :
    Gives (·.AllLeaves Leaf.IsProper) (toData? d levels outline n) := by
  induction levels generalizing outline n with
  | zero =>
    rw [toData?]
    refine gives_bind fun n => ?_
    cases n with
    | scalar tag text style => exact gives_pure (allLeaves_scalarData tag text style)
    | _ => exact gives_failure
  | succ levels ih =>
    rw [toData?]
    refine gives_bind fun n => ?_
    cases n with
    | scalar tag text style => exact gives_pure (allLeaves_scalarData tag text style)
    | seq tag items =>
      refine (gives_mapM fun n _ => ih outline.item n).bind fun parts hparts => ?_
      exact gives_pure (allLeaves_labelledBy tag (.seq _ hparts))
    | map tag pairs =>
      refine (gives_filterMapM (Q := fun f : Key × Data => f.2.AllLeaves Leaf.IsProper) ?_).bind
        fun fields hfields => gives_pure (allLeaves_labelledBy tag (allLeaves_mapData hfields))
      rintro ⟨k, v⟩ -
      -- what the key was read from is dropped, only its text stays
      refine gives_bind fun keyData => gives_bind fun key => ?_
      cases outline.field? key.text with
      | none => exact gives_pure nofun
      | some outline =>
        refine (ih outline v).bind fun value hvalue => gives_pure ?_
        rintro f ⟨⟩
        exact hvalue
    | _ => exact gives_failure

end Node

/-- **Data of a YAML text** is proper, as far as an outline looks at it. -/
theorem allLeaves_readData? {outline : Outline} {text : String} {d : Data}
    (h : readData? outline text = some d) : d.AllLeaves Leaf.IsProper := by
  rw [readData?] at h
  obtain ⟨tokens, -, h⟩ := Option.bind_eq_some_iff.mp h
  obtain ⟨events, -, h⟩ := Option.bind_eq_some_iff.mp h
  split at h
  · cases h
    exact allLeaves_scalarData none "" .plain
  · obtain ⟨document, -, h⟩ := Option.bind_eq_some_iff.mp h
    obtain ⟨⟨data, left⟩, hrun, rfl⟩ := Option.map_eq_some_iff.mp h
    exact Node.gives_toData? document Node.nestingLimit outline document.root _ _ _ hrun

end ApiScaffold.Yaml
