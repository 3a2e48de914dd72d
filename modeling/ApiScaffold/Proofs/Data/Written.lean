import ApiScaffold.Proofs.Data.Json

/-!
# Records as they are written

What is written for a record has known and distinct names, each field at most once, and so decoding it sets
one field after the other (`Data.setAll`). The lemmas here follow such a run: fields that stand there, fields
that are written only if there is a value, and fields after others. A record whose run ends at a value is read
back as that value (`Data.record_ofJson`).
-/

namespace ApiScaffold

/-! ### Names -/

/-- A field that is written only if there is a value has its name or none. -/
theorem Json.names_fieldIfAny_sublist {α : Type} (name : String) (f : α → Json) (value : Option α) :
    (Entries.names (Json.fieldIfAny name f value)).Sublist [name] := by
  cases value with
  | none => exact List.nil_sublist _
  | some a => exact List.Sublist.refl _

namespace Data

variable {α σ : Type} {set : String → Data → σ → Decoded σ} {fields more : Entries Json} {r r' r'' : σ}
  {k : String} {v : Json}

/-! ### One field after the other -/

/-- **The run over fields** of an object: each is set in its turn. -/
def setAll (set : String → Data → σ → Decoded σ) (fields : Entries Json) (r : σ) : Decoded σ :=
  fields.foldlM (fun r f => set f.1 (ofJson f.2) r) r

theorem setAll_cons (h : set k (ofJson v) r = .ok r') (hrest : setAll set fields r' = .ok r'') :
    setAll set ((k, v) :: fields) r = .ok r'' :=
  Built.bind_eq_ok.mpr ⟨r', h, hrest⟩

theorem setAll_append (h : setAll set fields r = .ok r') (hmore : setAll set more r' = .ok r'') :
    setAll set (fields ++ more) r = .ok r'' := by
  rw [setAll, List.foldlM_append]
  exact Built.bind_eq_ok.mpr ⟨r', h, hmore⟩

/-- A field that is written only if there is a value sets that value, and nothing otherwise. -/
theorem setAll_fieldIfAny {name : String} {f : α → Json} {value : Option α}
    (hnone : value = none → r' = r)
    (hsome : ∀ a, value = some a → set name (ofJson (f a)) r = .ok r') :
    setAll set (Json.fieldIfAny name f value) r = .ok r' := by
  cases value with
  | none =>
    obtain rfl := hnone rfl
    rfl
  | some a => exact setAll_cons (hsome a rfl) rfl

/-! ### The whole record -/

variable {names required requiredByPosition : List String}

/-- Known names that are all new are set one after the other. -/
theorem recordFields_of_nodup (hknown : ∀ name ∈ fields.names, name ∈ names)
    (hnodup : fields.names.Nodup) {seen : List String} (hnew : ∀ name ∈ fields.names, name ∉ seen)
    (h : setAll set fields r = .ok r') :
    recordFields names set (ofJsonFields fields) seen r = .ok (r', fields.names.reverse ++ seen) := by
  induction fields generalizing seen r with
  | nil =>
    obtain rfl := Except.ok.inj h
    rfl
  | cons f rest ih =>
    obtain ⟨k, v⟩ := f
    obtain ⟨hk, hrest⟩ := List.forall_mem_cons.mp hknown
    obtain ⟨hknew, hnewrest⟩ := List.forall_mem_cons.mp hnew
    obtain ⟨hnot, hnodup⟩ := List.nodup_cons.mp hnodup
    obtain ⟨mid, hmid, h⟩ := Built.bind_eq_ok.mp h
    have hlater : ∀ name ∈ Entries.names rest, name ∉ k :: seen := by
      intro name hname
      rw [List.mem_cons, not_or]
      exact ⟨fun heq => hnot (heq ▸ hname), hnewrest name hname⟩
    rw [ofJsonFields, recordFields, if_pos (List.contains_iff_mem.mpr hk), if_neg (by simpa using hknew)]
    refine Built.bind_eq_ok.mpr ⟨mid, hmid, ?_⟩
    rw [ih hrest hnodup hlater h]
    simp [Entries.names]

/-- **A record is read back** if the run over its fields ends at it. The names have to be in their order, and
the required ones have to be there. -/
theorem record_ofJson (hnames : names.Nodup) (hsub : fields.names.Sublist names)
    (hrequired : ∀ name ∈ required, name ∈ fields.names) (h : setAll set fields r = .ok r') :
    record names required requiredByPosition r set (ofJson (.obj fields)) = .ok r' := by
  have hrun : recordFields names set (ofJsonFields fields) [] r = .ok (r', fields.names.reverse) := by
    rw [recordFields_of_nodup (fun _ hname => hsub.subset hname) (hsub.nodup hnames) (by simp) h,
      List.append_nil]
  have hall : required.all fields.names.reverse.contains = true := by
    simpa using hrequired
  rw [record]
  refine Built.bind_eq_ok.mpr ⟨((r', fields.names.reverse), required), ?_, if_pos hall⟩
  exact Built.map_eq_ok.mpr ⟨_, hrun, rfl⟩

end Data

end ApiScaffold
