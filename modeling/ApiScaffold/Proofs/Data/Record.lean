import ApiScaffold.Data.Decode
import ApiScaffold.Proofs.Built
import ApiScaffold.Proofs.Pairing

/-!
# Records field by field

A record is decoded in one pass over what the document declares, in its order or by position. Still each
field can be looked at on its own. What the document declares for it is the only thing that it depends
on (`Data.declared?`): it holds what its own decoder makes of that, and without a declaration it stays as
it was at the start (`Data.IsField.record`). A pass over named values is taken apart in the same way: a
name that is written again counts as written last (`Data.gives_entries`).
-/

namespace ApiScaffold

namespace Data

variable {α β γ σ : Type}

/-- **What is declared** for a field of a record, under its name or at its position. -/
def declared? (names : List String) (d : Data) (name : String) : Option Data :=
  match d.fields? with
  | some fields => Entries.get? fields name
  | none =>
    match d.unlabelled with
    | .seq _ items => Entries.get? (names.zip items) name
    | _ => none

/-- **Decoded or left out**: what is declared decodes to the value, and without a declaration the value is
the default. -/
def Gives (decode : γ → Decoded β) (default : β) : Option γ → β → Prop
  | some d, b => decode d = .ok b
  | none, b => b = default

/-- **A field on its own**: where its name is set, it becomes what its decoder makes of the data, and it
stays as it is where another name is set. -/
structure IsField (names : List String) (set : String → Data → σ → Decoded σ) (name : String)
    (get : σ → β) (decode : Data → Decoded β) : Prop where
  mem : name ∈ names
  step : ∀ {k d r r'}, k ∈ names → set k d r = .ok r' →
    Gives decode (get r) (if k = name then some d else none) (get r')

/-! ### Fields by name -/

section

variable {names : List String} {set : String → Data → σ → Decoded σ} {name : String}
  {get : σ → β} {decode : Data → Decoded β}

theorem IsField.own (hf : IsField names set name get decode) {d : Data} {r r' : σ}
    (h : set name d r = .ok r') : decode d = .ok (get r') := by
  have hstep := hf.step hf.mem h
  rw [if_pos rfl] at hstep
  exact hstep

theorem IsField.other (hf : IsField names set name get decode) {k : String} {d : Data} {r r' : σ}
    (hk : k ∈ names) (hne : k ≠ name) (h : set k d r = .ok r') : get r' = get r := by
  have hstep := hf.step hk h
  rw [if_neg hne] at hstep
  exact hstep

/-- A name that was seen does not stand in what is left. -/
theorem get?_of_seen {fields : List (String × Data)} {seen : List String} {r : σ}
    {result : σ × List String} (hname : name ∈ names) (hseen : name ∈ seen)
    (h : recordFields names set fields seen r = .ok result) :
    Entries.get? fields name = none := by
  induction fields generalizing seen r with
  | nil => rfl
  | cons field rest ih =>
    obtain ⟨k, d⟩ := field
    have hk : k ≠ name := by
      rintro rfl
      simp [recordFields, hname, hseen, mismatch] at h
    rw [Entries.get?, if_neg hk]
    rw [recordFields] at h
    split at h
    · split at h
      · cases h
      · obtain ⟨r', -, hrest⟩ := Built.bind_eq_ok.mp h
        exact ih (List.mem_cons_of_mem _ hseen) hrest
    · exact ih hseen h

theorem IsField.recordFields (hf : IsField names set name get decode)
    {fields : List (String × Data)} {seen : List String} {r : σ} {result : σ × List String}
    (h : Data.recordFields names set fields seen r = .ok result) :
    Gives decode (get r) (Entries.get? fields name) (get result.1) := by
  induction fields generalizing seen r with
  | nil =>
    obtain rfl := Except.ok.inj h
    rfl
  | cons field rest ih =>
    obtain ⟨k, d⟩ := field
    rw [Data.recordFields] at h
    rw [Entries.get?]
    by_cases hk : k = name
    · subst hk
      rw [if_pos (List.contains_iff_mem.mpr hf.mem)] at h
      split at h
      · cases h
      · obtain ⟨r', hset, hrest⟩ := Built.bind_eq_ok.mp h
        -- the name is seen now, so the rest leaves the field as it is
        have hkept := ih hrest
        rw [get?_of_seen hf.mem List.mem_cons_self hrest] at hkept
        rw [if_pos rfl, Gives, hkept]
        exact hf.own hset
    · rw [if_neg hk]
      split at h
      next hmem =>
        split at h
        · cases h
        · obtain ⟨r', hset, hrest⟩ := Built.bind_eq_ok.mp h
          rw [← hf.other (List.contains_iff_mem.mp hmem) hk hset]
          exact ih hrest
      next => exact ih h

/-! ### Fields by position -/

theorem IsField.recordItems (hf : IsField names set name get decode) {strict : Bool}
    {left : List String} (hleft : left.Nodup) (hsub : left ⊆ names) {items : List Data}
    {seen : List String} {r : σ} {result : σ × List String}
    (h : Data.recordItems strict set left items seen r = .ok result) :
    Gives decode (get r) (Entries.get? (left.zip items) name) (get result.1) := by
  induction left generalizing items seen r with
  | nil =>
    cases items with
    | nil =>
      obtain rfl := Except.ok.inj h
      rfl
    | cons d rest =>
      rw [Data.recordItems] at h
      split at h
      · cases h
      · obtain rfl := Except.ok.inj h
        rfl
  | cons k left ih =>
    cases items with
    | nil =>
      obtain rfl := Except.ok.inj h
      rfl
    | cons d rest =>
      obtain ⟨hk, hnodup⟩ := List.nodup_cons.mp hleft
      obtain ⟨hmem, hsub⟩ := List.cons_subset.mp hsub
      obtain ⟨r', hset, hrest⟩ := Built.bind_eq_ok.mp h
      have hkept := ih hnodup hsub hrest
      rw [List.zip_cons_cons, Entries.get?]
      by_cases hkn : k = name
      · subst hkn
        -- positions have different names, so the others leave the field as it is
        have hnone : Entries.get? (left.zip rest) k = none := by
          refine Entries.get?_eq_none_iff.mpr fun hzip => hk ?_
          obtain ⟨entry, hentry, rfl⟩ := List.mem_map.mp hzip
          exact (List.of_mem_zip hentry).1
        rw [hnone] at hkept
        rw [if_pos rfl, Gives, hkept]
        exact hf.own hset
      · rw [if_neg hkn, ← hf.other hmem hkn hset]
        exact hkept

/-! ### The whole record -/

/-- The check for required fields at the end of a record leaves it as it is. -/
theorem eq_ok_of_required {x : Decoded ((σ × List String) × List String)} {r : σ}
    (h : (do
      let ((acc, seen), required) ← x
      if required.all seen.contains then .ok acc else mismatch) = .ok r) :
    ∃ seen required, x = .ok ((r, seen), required) := by
  obtain ⟨⟨⟨acc, seen⟩, required⟩, hx, hcheck⟩ := Built.bind_eq_ok.mp h
  dsimp only at hcheck
  split at hcheck
  · obtain rfl := Except.ok.inj hcheck
    exact ⟨seen, required, hx⟩
  · cases hcheck

/-- **A field of a record** holds what is declared for it, and what it started with otherwise. -/
theorem IsField.record (hf : IsField names set name get decode) (hnames : names.Nodup)
    {required requiredByPosition : List String} {init r : σ} {d : Data}
    (h : Data.record names required requiredByPosition init set d = .ok r) :
    Gives decode (get init) (declared? names d name) (get r) := by
  rw [declared?]
  rw [Data.record] at h
  cases hfields : d.fields? with
  | some fields =>
    rw [hfields] at h
    obtain ⟨seen, needed, h⟩ := eq_ok_of_required h
    obtain ⟨run, hrun, hresult⟩ := Built.map_eq_ok.mp h
    obtain ⟨rfl, -⟩ := Prod.mk.inj hresult
    exact hf.recordFields hrun
  | none =>
    rw [hfields] at h
    split at h
    next hsome => cases hsome
    next => cases h
    next format items hitems =>
      obtain ⟨seen, needed, h⟩ := eq_ok_of_required h
      obtain ⟨run, hrun, hresult⟩ := Built.map_eq_ok.mp h
      obtain ⟨rfl, -⟩ := Prod.mk.inj hresult
      rw [hitems]
      exact hf.recordItems hnames (List.Subset.refl _) hrun
    next hother =>
      split at h
      · obtain ⟨seen, needed, h⟩ := eq_ok_of_required h
        obtain ⟨⟨rfl, -⟩, -⟩ : (init = r ∧ _) ∧ _ := by simpa using h
        cases hitems : d.unlabelled with
        | seq format items => exact (hother format items hitems).elim
        | _ => rfl
      · cases h

/-! ### The run behind a record -/

theorem foldlM_of_recordFields {fields : List (String × Data)} {seen : List String} {r : σ}
    {result : σ × List String} (h : recordFields names set fields seen r = .ok result) :
    (fields.filter fun f => names.contains f.1).foldlM (fun r f => set f.1 f.2 r) r =
      .ok result.1 := by
  induction fields generalizing seen r with
  | nil =>
    obtain rfl := Except.ok.inj h
    rfl
  | cons f rest ih =>
    obtain ⟨k, d⟩ := f
    rw [recordFields] at h
    split at h
    next hk =>
      rw [List.filter_cons, if_pos hk]
      split at h
      · cases h
      · obtain ⟨r', hset, hrest⟩ := Built.bind_eq_ok.mp h
        exact Built.bind_eq_ok.mpr ⟨r', hset, ih hrest⟩
    next hk =>
      rw [List.filter_cons, if_neg hk]
      exact ih h

theorem foldlM_of_recordItems {strict : Bool} {left : List String} {items : List Data}
    {seen : List String} {r : σ} {result : σ × List String}
    (h : recordItems strict set left items seen r = .ok result) :
    (left.zip items).foldlM (fun r f => set f.1 f.2 r) r = .ok result.1 := by
  induction left generalizing items seen r with
  | nil =>
    cases items with
    | nil =>
      obtain rfl := Except.ok.inj h
      rfl
    | cons d rest =>
      rw [recordItems] at h
      split at h
      · cases h
      · obtain rfl := Except.ok.inj h
        rfl
  | cons k left ih =>
    cases items with
    | nil =>
      obtain rfl := Except.ok.inj h
      rfl
    | cons d rest =>
      obtain ⟨r', hset, hrest⟩ := Built.bind_eq_ok.mp h
      exact Built.bind_eq_ok.mpr ⟨r', hset, ih hrest⟩

/-- **A record comes from a run** over named data, whatever the shape of its data. -/
theorem exists_foldlM_of_record {required requiredByPosition : List String} {init r : σ} {d : Data}
    (h : record names required requiredByPosition init set d = .ok r) :
    ∃ fields : List (String × Data), fields.foldlM (fun r f => set f.1 f.2 r) init = .ok r := by
  rw [record] at h
  split at h
  next fields _ _ =>
    obtain ⟨seen, needed, h⟩ := eq_ok_of_required h
    obtain ⟨run, hrun, hresult⟩ := Built.map_eq_ok.mp h
    obtain ⟨rfl, -⟩ := Prod.mk.inj hresult
    exact ⟨_, foldlM_of_recordFields hrun⟩
  next => cases h
  next format items _ _ _ =>
    obtain ⟨seen, needed, h⟩ := eq_ok_of_required h
    obtain ⟨run, hrun, hresult⟩ := Built.map_eq_ok.mp h
    obtain ⟨rfl, -⟩ := Prod.mk.inj hresult
    exact ⟨_, foldlM_of_recordItems hrun⟩
  next =>
    split at h
    · obtain ⟨seen, needed, h⟩ := eq_ok_of_required h
      obtain ⟨⟨rfl, -⟩, -⟩ : (init = r ∧ _) ∧ _ := by simpa using h
      exact ⟨[], rfl⟩
    · cases h

/-- **What each field keeps** is kept by the record. This is how a property of a decoded record is shown
without a look at the shape of its data. -/
theorem record_preserves {P : σ → Prop} (hset : ∀ {k d r r'}, P r → set k d r = .ok r' → P r')
    {required requiredByPosition : List String} {init r : σ} {d : Data}
    (h : record names required requiredByPosition init set d = .ok r) (hinit : P init) : P r := by
  obtain ⟨fields, hrun⟩ := exists_foldlM_of_record h
  exact Built.foldlM_preserves hset hrun hinit

end

/-! ### Lists -/

/-- Each item of a list was decoded from some data. -/
theorem exists_of_mem_list {decode : Data → Decoded α} {d : Data} {items : List α}
    (h : d.list decode = .ok items) {a : α} (ha : a ∈ items) : ∃ x, decode x = .ok a := by
  rw [list] at h
  split at h
  · obtain ⟨x, -, hx⟩ := Pairing.exists_left_of_mem (Built.mapM_eq_ok.mp h) ha
    exact ⟨x, hx⟩
  · split at h
    · obtain rfl := Except.ok.inj h
      cases ha
    · cases h

/-! ### Named values -/

/-- **What is written last** under a name of a map. -/
def last? (d : Data) (name : String) : Option Data :=
  d.fields?.bind fun fields => Entries.get? fields.reverse name

theorem mem_of_last?_map {format : Format} {fields : List (String × Data)} {name : String} {x : Data}
    (h : (map format fields).last? name = some x) : (name, x) ∈ fields :=
  List.mem_reverse.mp (Entries.mem_of_get? h)

theorem exists_last?_map_iff {format : Format} {fields : List (String × Data)} {name : String} :
    (∃ x, (map format fields).last? name = some x) ↔ name ∈ Entries.names fields := by
  change (∃ x, Entries.get? fields.reverse name = some x) ↔ _
  rw [Entries.exists_get?_eq_some_iff, Entries.names, Entries.names, List.map_reverse,
    List.mem_reverse]

/-- A pass over named values leaves at a name what was written there last. -/
theorem gives_foldlM {step : σ → String × γ → Decoded σ} {name : String} (get : σ → β)
    {decode : γ → Decoded β}
    (hstep : ∀ {k x r r'}, step r (k, x) = .ok r' →
      Gives decode (get r) (if k = name then some x else none) (get r'))
    {fields : List (String × γ)} {r r' : σ} (h : fields.foldlM step r = .ok r') :
    Gives decode (get r) (Entries.get? fields.reverse name) (get r') := by
  induction fields generalizing r with
  | nil =>
    obtain rfl := Except.ok.inj h
    rfl
  | cons field rest ih =>
    obtain ⟨k, x⟩ := field
    obtain ⟨mid, hmid, hrest⟩ := Built.bind_eq_ok.mp h
    have hlast := ih hrest
    rw [List.reverse_cons, Entries.get?_append]
    cases hfound : Entries.get? rest.reverse name with
    | some last =>
      rw [hfound] at hlast
      exact hlast
    | none =>
      -- the rest does not write the name, so this step is the last that may
      rw [hfound] at hlast
      rw [Option.none_or, Entries.get?, Entries.get?_nil, hlast]
      exact hstep hmid

/-- Named values are decoded in a pass that inserts one after the other. -/
theorem fieldsOf_eq_foldlM (decode : Data → Decoded α) (fields : List (String × Data))
    (acc : Entries α) : fieldsOf decode fields acc =
      fields.foldlM (fun acc field => (decode field.2).map (acc.insert field.1)) acc := by
  induction fields generalizing acc with
  | nil => rfl
  | cons field rest ih =>
    rw [fieldsOf, List.foldlM_cons]
    cases hv : decode field.2 with
    | error e => rfl
    | ok v => exact ih (acc.insert field.1 v)

/-- **Named values**: under each name there is what was written there last. Whatever stood there before
has to decode as well, but leaves no trace. -/
theorem gives_entries {decode : Data → Decoded α} {d : Data} {es : Entries α}
    (h : d.entries decode = .ok es) (name : String) :
    Gives (fun x => (decode x).map some) none (d.last? name) (es.get? name) := by
  rw [entries] at h
  rw [last?]
  cases hfields : d.fields? with
  | some fields =>
    rw [hfields] at h
    dsimp only at h
    rw [fieldsOf_eq_foldlM] at h
    refine gives_foldlM (fun es => Entries.get? es name) ?_ h
    intro k x acc acc' hstep
    obtain ⟨v, hv, rfl⟩ := Built.map_eq_ok.mp hstep
    by_cases hk : k = name
    · subst hk
      rw [if_pos rfl, Entries.get?_insert_self]
      exact Built.map_eq_ok.mpr ⟨v, hv, rfl⟩
    · rw [if_neg hk]
      exact Entries.get?_insert_of_ne acc v hk
  | none =>
    rw [hfields] at h
    dsimp only at h
    split at h
    · obtain rfl := Except.ok.inj h
      rfl
    · cases h

/-- Named values have distinct names. -/
theorem nodup_entries {decode : Data → Decoded α} {d : Data} {es : Entries α}
    (h : d.entries decode = .ok es) : es.names.Nodup := by
  have hpass {fields : List (String × Data)} {acc es : Entries α} (hacc : acc.names.Nodup)
      (h : fieldsOf decode fields acc = .ok es) : es.names.Nodup := by
    induction fields generalizing acc with
    | nil =>
      obtain rfl := Except.ok.inj h
      exact hacc
    | cons field rest ih =>
      obtain ⟨v, -, hrest⟩ := Built.bind_eq_ok.mp h
      exact ih (Entries.nodup_insert hacc field.1 v) hrest
  have hnil : (Entries.names ([] : Entries α)).Nodup := List.nodup_nil
  rw [entries] at h
  split at h
  · exact hpass hnil h
  · split at h
    · obtain rfl := Except.ok.inj h
      exact hnil
    · cases h

/-- **Each named value** is what was written last under its name. -/
theorem last?_of_mem_entries {decode : Data → Decoded α} {d : Data} {es : Entries α}
    (h : d.entries decode = .ok es) {e : String × α} (he : e ∈ es) :
    ∃ x, d.last? e.1 = some x ∧ decode x = .ok e.2 := by
  have hgives := gives_entries h e.1
  rw [(Entries.get?_eq_some_iff (nodup_entries h)).mpr he] at hgives
  cases hlast : d.last? e.1 with
  | none =>
    rw [hlast] at hgives
    cases hgives
  | some x =>
    rw [hlast] at hgives
    obtain ⟨v, hv, heq⟩ := Built.map_eq_ok.mp hgives
    obtain rfl := Option.some.inj heq
    exact ⟨x, rfl, hv⟩

/-- **The names** of named values are those that something was written under, once each. -/
theorem mem_names_entries {decode : Data → Decoded α} {d : Data} {es : Entries α}
    (h : d.entries decode = .ok es) {name : String} :
    name ∈ es.names ↔ ∃ x, d.last? name = some x := by
  have hgives := gives_entries h name
  rw [← Entries.exists_get?_eq_some_iff]
  cases hlast : d.last? name with
  | none =>
    rw [hlast] at hgives
    simp [show es.get? name = none from hgives]
  | some x =>
    rw [hlast] at hgives
    obtain ⟨v, -, heq⟩ := Built.map_eq_ok.mp hgives
    simp [← heq]

end Data

end ApiScaffold
