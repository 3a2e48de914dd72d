import ApiScaffold.Description.Decode
import ApiScaffold.Description.Encode
import ApiScaffold.Proofs.Data.Record
import ApiScaffold.Proofs.Data.Written

/-!
# Parameters are read back

A parameter is decoded into a draft, one key after the other (`Parameter.Draft.Sets` lists what a key can do).
A draft that started empty has a location that comes from a tag, no `null` in place of a schema, and no known
key among the extra ones. A parameter finished from such a draft is what its own JSON value decodes to
(`Parameter.IsDecoded.readsBack`), and the draft has the keys that are written for it
(`Parameter.Draft.keys`).
-/

namespace ApiScaffold.Parameter

/-- The known fields that may be `null`, which is as good as missing. -/
def optionalFields : List String := ["type", "description", "schema"]

theorem optionalFields_subset : optionalFields ⊆ knownFields := by decide

namespace Draft

variable {q q' : Draft} {k key : String} {d : Data}

/-! ### One key -/

/-- **What a key does to a draft**: a known one sets its field, which has to be empty, and all others are
kept as extra keys. -/
inductive Sets (q : Draft) : String → Data → Draft → Prop
  | name {d : Data} {s : String} (hnone : q.name = none) (hd : d.text = .ok s) :
      Sets q "name" d { q with name := some s }
  | location {d : Data} {tag : String} (hnone : q.location = none) (hd : d.text = .ok tag) :
      Sets q "in" d { q with location := some (.ofTag tag) }
  | required {d : Data} {b : Bool} (hnone : q.required = none) (hd : d.flag = .ok b) :
      Sets q "required" d { q with required := some b }
  | type {d : Data} {o : Option String} (hnone : q.type = none) (hd : d.optional Data.text = .ok o) :
      Sets q "type" d { q with type := some o }
  | description {d : Data} {o : Option String} (hnone : q.description = none)
      (hd : d.optional Data.text = .ok o) : Sets q "description" d { q with description := some o }
  | schema {d : Data} {o : Option Json} (hnone : q.schema = none) (hd : d.optional Data.json = .ok o) :
      Sets q "schema" d { q with schema := some o }
  | extra {k : String} {d : Data} (hk : k ∉ knownFields) :
      Sets q k d { q with extra := q.extra ++ [(k, d)] }

theorem once_eq_ok {α : Type} {field o : Option α} {value : Decoded α} :
    once field value = .ok o ↔ field = none ∧ ∃ a, value = .ok a ∧ o = some a := by
  cases field with
  | some a => simp [once, Data.mismatch]
  | none =>
    rw [once, Built.map_eq_ok]
    simp [eq_comm]

theorem set_eq_ok_iff : q.set k d = .ok q' ↔ q.Sets k d q' := by
  constructor
  · intro h
    unfold set at h
    split at h
    all_goals simp only [Built.bind_eq_ok, Built.pure_eq_ok, once_eq_ok, Built.map_eq_ok] at h
    · obtain ⟨_, ⟨hnone, s, hd, rfl⟩, rfl⟩ := h
      exact .name hnone hd
    · obtain ⟨_, ⟨hnone, _, ⟨tag, hd, rfl⟩, rfl⟩, rfl⟩ := h
      exact .location hnone hd
    · obtain ⟨_, ⟨hnone, b, hd, rfl⟩, rfl⟩ := h
      exact .required hnone hd
    · obtain ⟨_, ⟨hnone, o, hd, rfl⟩, rfl⟩ := h
      exact .type hnone hd
    · obtain ⟨_, ⟨hnone, o, hd, rfl⟩, rfl⟩ := h
      exact .description hnone hd
    · obtain ⟨_, ⟨hnone, o, hd, rfl⟩, rfl⟩ := h
      exact .schema hnone hd
    · obtain rfl := h
      refine .extra ?_
      simp only [knownFields, List.mem_cons, List.not_mem_nil, or_false, not_or]
      exact ⟨‹_›, ‹_›, ‹_›, ‹_›, ‹_›, ‹_›⟩
  · intro h
    cases h with
    | name hnone hd => simp [set, once, hnone, hd, Except.map]
    | location hnone hd => simp [set, once, hnone, hd, Except.map]
    | required hnone hd => simp [set, once, hnone, hd, Except.map]
    | type hnone hd => simp [set, once, hnone, hd, Except.map]
    | description hnone hd => simp [set, once, hnone, hd, Except.map]
    | schema hnone hd => simp [set, once, hnone, hd, Except.map]
    | extra hk =>
      simp only [knownFields, List.mem_cons, List.not_mem_nil, or_false, not_or] at hk
      simp [set, hk, Built.pure_eq_ok]

/-! ### All keys -/

/-- The draft with the fields of an object. -/
def fill (q : Draft) (fields : Entries Json) : Decoded Draft :=
  Data.setAll (fun k d q => q.set k d) fields q

/-- A name if there is a value for it. -/
def keyIf {α : Type} (name : String) (value : Option α) : List String := value.toList.map fun _ => name

/-- **The keys of a draft**: the names of the fields that it has a value for, and the extra keys. -/
def keys (q : Draft) : List String :=
  keyIf "name" q.name ++ keyIf "in" q.location ++ keyIf "required" q.required ++
    keyIf "type" q.type.join ++ keyIf "description" q.description.join ++
    keyIf "schema" q.schema.join ++ q.extra.map (·.1)

/-- **A draft that can be written**: its location has a tag, its schema can be read back, and its extra keys
are none of the known ones. -/
structure IsDecoded (q : Draft) : Prop where
  location : ∀ l, q.location = some l → ∃ tag, l = .ofTag tag
  schema : ∀ v, q.schema.join = some v → v.DistinctKeys ∧ v ≠ .null
  extra : ∀ f ∈ q.extra, f.1 ∉ knownFields

/-- **The parameter of a draft.** -/
structure Finishes (q : Draft) (p : Parameter) : Prop where
  name : q.name = some p.name
  location : q.location = some p.location
  required : q.required.getD false = p.required
  type : q.type.join = p.type
  description : q.description.join = p.description
  schema : q.schema.join = p.schema
  extra : Data.fieldsOf Data.textKeyedJson q.extra [] = .ok p.extra

theorem mem_keyIf {α : Type} {name : String} {value : Option α} :
    key ∈ keyIf name value ↔ key = name ∧ value.isSome = true := by
  cases value <;> simp [keyIf]

theorem mem_keys : key ∈ q.keys ↔
    key = "name" ∧ q.name.isSome ∨ key = "in" ∧ q.location.isSome ∨
      key = "required" ∧ q.required.isSome ∨ key = "type" ∧ q.type.join.isSome ∨
      key = "description" ∧ q.description.join.isSome ∨ key = "schema" ∧ q.schema.join.isSome ∨
      key ∈ q.extra.map (·.1) := by
  simp only [keys, List.mem_append, mem_keyIf, or_assoc]

/-- A value that may be missing is there exactly if it is not `null`. -/
theorem isSome_iff {α : Type} {decode : Data → Decoded α} {v : Json} {o : Option α}
    (h : Data.optional decode (Data.ofJson v) = .ok o) : o.isSome = true ↔ v ≠ .null := by
  obtain ⟨rfl, rfl⟩ | ⟨hv, a, -, rfl⟩ := Data.optional_ofJson_eq_ok.mp h
  · simp
  · simp [hv]

/-- A key adds itself, if it has a value. -/
theorem Sets.mem_keys {v : Json} (h : q.Sets k (Data.ofJson v) q') :
    key ∈ q'.keys ↔ key ∈ q.keys ∨ key = k ∧ (k ∈ optionalFields → v ≠ .null) := by
  rw [Draft.mem_keys, Draft.mem_keys]
  cases h with
  | name hnone hd => grind [optionalFields]
  | location hnone hd => grind [optionalFields]
  | required hnone hd => grind [optionalFields]
  | type hnone hd => grind [optionalFields, isSome_iff hd]
  | description hnone hd => grind [optionalFields, isSome_iff hd]
  | schema hnone hd => grind [optionalFields, isSome_iff hd]
  | extra hk =>
    have hoptional : k ∉ optionalFields := fun hmem => hk (optionalFields_subset hmem)
    grind

/-- **The keys of a filled draft** are those of the object that have a value. -/
theorem mem_keys_fill {fields : Entries Json} (h : q.fill fields = .ok q') :
    key ∈ q'.keys ↔ key ∈ q.keys ∨ ∃ v, (key, v) ∈ fields ∧ (key ∈ optionalFields → v ≠ .null) := by
  induction fields generalizing q with
  | nil =>
    obtain rfl := Except.ok.inj h
    simp
  | cons f rest ih =>
    obtain ⟨k, v⟩ := f
    obtain ⟨mid, hmid, hrest⟩ := Built.bind_eq_ok.mp h
    rw [ih hrest, (set_eq_ok_iff.mp hmid).mem_keys]
    grind

theorem isDecoded_empty : IsDecoded {} where
  location _ h := nomatch h
  schema _ h := nomatch h
  extra _ h := nomatch h

theorem Sets.isDecoded {v : Json} (h : q.Sets k (Data.ofJson v) q') (hq : q.IsDecoded) :
    q'.IsDecoded := by
  cases h with
  | name | required | type | description => exact ⟨hq.location, hq.schema, hq.extra⟩
  | location hnone hd =>
    refine ⟨fun l hl => ?_, hq.schema, hq.extra⟩
    obtain rfl := Option.some.inj hl
    exact ⟨_, rfl⟩
  | schema hnone hd =>
    refine ⟨hq.location, fun w hw => ?_, hq.extra⟩
    obtain ⟨-, rfl⟩ | ⟨hv, a, ha, rfl⟩ := Data.optional_ofJson_eq_ok.mp hd
    · cases hw
    · obtain rfl := Option.some.inj hw
      have hread := Data.json_eq_ok.mp ha
      exact ⟨Data.distinctKeys_of_toJson? hread,
        fun h => hv (Data.eq_null_of_toJson?_ofJson (h ▸ hread))⟩
  | extra hk =>
    refine ⟨hq.location, hq.schema, fun f hf => ?_⟩
    rcases List.mem_append.mp hf with hf | hf
    · exact hq.extra f hf
    · obtain rfl := List.mem_singleton.mp hf
      exact hk

/-- **Filled drafts** can be written. -/
theorem isDecoded_fill {fields : Entries Json} (h : fill {} fields = .ok q) : q.IsDecoded :=
  Built.foldlM_preserves (fun hq hstep => (set_eq_ok_iff.mp hstep).isDecoded hq) h isDecoded_empty

end Draft

/-! ### Parameters -/

/-- **A parameter as it is decoded**: its location has a tag, its schema is not `null`, its extra keys are
distinct and none of the known ones, and its values have distinct keys. -/
structure IsDecoded (p : Parameter) : Prop where
  location : ∃ tag, p.location = .ofTag tag
  schema : ∀ v, p.schema = some v → v.DistinctKeys ∧ v ≠ .null
  names : p.extra.names.Nodup
  unknown : ∀ f ∈ p.extra, f.1 ∉ knownFields
  values : ∀ f ∈ p.extra, f.2.DistinctKeys

/-- The fields that are written for a parameter. -/
def written (p : Parameter) : Entries Json :=
  [("name", .str p.name), ("in", .str p.location.tag), ("required", .bool p.required)] ++
    Json.fieldIfAny "type" .str p.type ++ Json.fieldIfAny "description" .str p.description ++
    Json.fieldIfAny "schema" id p.schema ++ p.extra

/-- The draft that the fields of a parameter fill. -/
def draft (p : Parameter) : Draft where
  name := p.name
  location := p.location
  required := p.required
  type := p.type.map some
  description := p.description.map some
  schema := p.schema.map some
  extra := p.extra.map fun f => (f.1, Data.ofJson f.2)

variable {p : Parameter} {q q' : Draft} {fields : Entries Json} {j : Json} {key : String}

/-- The tag of a location is read as the location. -/
theorem ofTag_tag (tag : String) :
    ParameterLocation.ofTag (ParameterLocation.ofTag tag).tag = .ofTag tag := by
  fun_cases ParameterLocation.ofTag tag with
  | case6 => simp [ParameterLocation.tag, ParameterLocation.ofTag, *]
  | _ => rfl

/-- **Decoding an object** fills a draft with its fields and takes the parameter of the draft. -/
theorem decode_ofJson_eq_ok : decode (Data.ofJson j) = .ok p ↔
    ∃ fields q, j = .obj fields ∧ Draft.fill {} fields = .ok q ∧ q.Finishes p := by
  have hfields (fields : Entries Json) :
      (Data.ofJson (.obj fields)).fields? = some (fields.map fun f => (f.1, Data.ofJson f.2)) := by
    rw [Data.ofJson, Data.ofJsonFields_eq_map]
    rfl
  constructor
  · intro h
    cases j with
    | obj fields =>
      rw [decode, hfields] at h
      obtain ⟨q, hq, h⟩ := Built.bind_eq_ok.mp h
      rw [List.foldlM_map] at hq
      refine ⟨fields, q, rfl, hq, ?_⟩
      split at h
      next hname hlocation =>
        obtain ⟨extra, hextra, h⟩ := Built.bind_eq_ok.mp h
        obtain rfl := Built.pure_eq_ok.mp h
        exact ⟨hname, hlocation, rfl, rfl, rfl, rfl, hextra⟩
      next => cases h
    | _ => cases h
  · rintro ⟨fields, q, rfl, hq, h⟩
    rw [decode, hfields]
    refine Built.bind_eq_ok.mpr ⟨q, (List.foldlM_map ..).trans hq, ?_⟩
    rw [h.name, h.location]
    refine Built.bind_eq_ok.mpr ⟨_, h.extra, ?_⟩
    rw [h.required, h.type, h.description, h.schema]
    rfl

/-- The extra keys of a parameter are those of its draft. -/
theorem Draft.Finishes.mem_names (h : q.Finishes p) :
    key ∈ p.extra.names ↔ key ∈ q.extra.map (·.1) := by
  have hextra : (Data.map .json q.extra).entries Data.textKeyedJson = .ok p.extra := h.extra
  exact (Data.mem_names_entries hextra).trans Data.exists_last?_map_iff

theorem Draft.Finishes.isDecoded (h : q.Finishes p) (hq : q.IsDecoded) : p.IsDecoded := by
  have hextra : (Data.map .json q.extra).entries Data.textKeyedJson = .ok p.extra := h.extra
  exact {
    location := hq.location _ h.location
    schema := fun v hv => hq.schema v (h.schema.trans hv)
    names := Data.nodup_entries hextra
    unknown := fun f hf => by
      obtain ⟨d, hd, -⟩ := Data.last?_of_mem_entries hextra hf
      exact hq.extra _ (Data.mem_of_last?_map hd)
    values := fun f hf => by
      obtain ⟨d, -, hd⟩ := Data.last?_of_mem_entries hextra hf
      exact Data.distinctKeys_of_toJson? (Data.toJson?_of_textKeyedJson hd) }

/-- **Parameters of JSON values** are as they are decoded: with a location that has a tag, without a
schema that is `null`, and with further fields whose keys are distinct and have no other meaning. -/
theorem isDecoded_of_decode (h : decode (Data.ofJson j) = .ok p) : p.IsDecoded := by
  obtain ⟨fields, q, -, hq, hfinish⟩ := decode_ofJson_eq_ok.mp h
  exact hfinish.isDecoded (Draft.isDecoded_fill hq)

/-! ### Written and read back -/

/-- Unknown keys are put after those that are there. -/
theorem Draft.fill_extra (h : ∀ f ∈ fields, f.1 ∉ knownFields) : q.fill fields =
    .ok { q with extra := q.extra ++ fields.map fun f => (f.1, Data.ofJson f.2) } := by
  induction fields generalizing q with
  | nil => rw [List.map_nil, List.append_nil]; rfl
  | cons f rest ih =>
    obtain ⟨hf, hrest⟩ := List.forall_mem_cons.mp h
    refine Built.bind_eq_ok.mpr ⟨_, set_eq_ok_iff.mpr (.extra hf), (ih hrest).trans ?_⟩
    rw [List.append_assoc, List.singleton_append, List.map_cons]

/-- **What is written** for a parameter fills its draft: one pass over the written fields sets each
field that has a value and leaves the others empty. -/
theorem fill_written (hp : p.IsDecoded) : Draft.fill {} p.written = .ok p.draft := by
  have hknown : Draft.fill {}
      [("name", .str p.name), ("in", .str p.location.tag), ("required", .bool p.required)] =
      .ok { p.draft with type := none, description := none, schema := none, extra := [] } := by
    have hlocation : ParameterLocation.ofTag p.location.tag = p.location := by
      obtain ⟨tag, htag⟩ := hp.location
      rw [htag, ofTag_tag]
    change (Except.ok { name := p.name, location := some (.ofTag p.location.tag),
                        required := p.required } : Decoded Draft) = _
    rw [hlocation]
    rfl
  -- each field that may be missing is set on top of the draft without it
  have htype : Draft.fill
      { p.draft with type := none, description := none, schema := none, extra := [] }
      (Json.fieldIfAny "type" .str p.type) =
      .ok { p.draft with description := none, schema := none, extra := [] } := by
    refine Data.setAll_fieldIfAny (fun h => by rw [draft, h]; rfl) fun s h => ?_
    rw [draft, h]
    exact Draft.set_eq_ok_iff.mpr (.type rfl rfl)
  have hdescription : Draft.fill { p.draft with description := none, schema := none, extra := [] }
      (Json.fieldIfAny "description" .str p.description) =
      .ok { p.draft with schema := none, extra := [] } := by
    refine Data.setAll_fieldIfAny (fun h => by rw [draft, h]; rfl) fun s h => ?_
    rw [draft, h]
    exact Draft.set_eq_ok_iff.mpr (.description rfl rfl)
  have hschema : Draft.fill { p.draft with schema := none, extra := [] }
      (Json.fieldIfAny "schema" id p.schema) = .ok { p.draft with extra := [] } := by
    refine Data.setAll_fieldIfAny (fun h => by rw [draft, h]; rfl) fun v h => ?_
    obtain ⟨hdistinct, hnull⟩ := hp.schema v h
    rw [draft, h]
    exact Draft.set_eq_ok_iff.mpr (.schema rfl ((Data.readsBack_json hdistinct).optional hnull))
  have hextra : Draft.fill { p.draft with extra := [] } p.extra = .ok p.draft :=
    Draft.fill_extra hp.unknown
  exact Data.setAll_append (Data.setAll_append (Data.setAll_append
    (Data.setAll_append hknown htype) hdescription) hschema) hextra

theorem finishes_draft (hp : p.IsDecoded) : p.draft.Finishes p where
  name := rfl
  location := rfl
  required := rfl
  type := by cases h : p.type <;> simp [draft, h]
  description := by cases h : p.description <;> simp [draft, h]
  schema := by cases h : p.schema <;> simp [draft, h]
  extra := Data.fieldsOf_map Data.ofJson
    (fun f hf => Data.readsBack_textKeyedJson (hp.values f hf)) hp.names

/-- **Parameters are read back** from what is written for them, and this holds for just those that
decoding can give. -/
theorem IsDecoded.readsBack (hp : p.IsDecoded) : decode (Data.ofJson p.toJson) = .ok p :=
  decode_ofJson_eq_ok.mpr ⟨p.written, p.draft, rfl, fill_written hp, finishes_draft hp⟩

/-! ### Keys -/

theorem names_fieldIfAny {α : Type} (name : String) (f : α → Json) (value : Option α) :
    Entries.names (Json.fieldIfAny name f value) = Draft.keyIf name value := by
  cases value <;> rfl

theorem map_fst_extra_draft (p : Parameter) : p.draft.extra.map (·.1) = p.extra.names := by
  rw [draft, List.map_map]
  rfl

/-- The names of what is written are the keys of the draft. -/
theorem names_written (p : Parameter) : p.written.names = p.draft.keys := by
  have hoption {α : Type} (value : Option α) : (value.map some).join = value := by
    cases value <;> rfl
  rw [Draft.keys, map_fst_extra_draft, written]
  simp only [Entries.names_append, names_fieldIfAny, draft, hoption]
  rfl

/-- **No key is written twice.** Own fields have names of their own, and the further ones have none of
these. -/
theorem nodup_names_written (hp : p.IsDecoded) : p.written.names.Nodup := by
  have hknown : (Entries.names
      ([("name", .str p.name), ("in", .str p.location.tag), ("required", .bool p.required)] ++
        Json.fieldIfAny "type" .str p.type ++ Json.fieldIfAny "description" .str p.description ++
        Json.fieldIfAny "schema" id p.schema)).Sublist knownFields := by
    simp only [Entries.names_append]
    exact (((List.Sublist.refl ["name", "in", "required"]).append
      (Json.names_fieldIfAny_sublist ..)).append (Json.names_fieldIfAny_sublist ..)).append
      (Json.names_fieldIfAny_sublist ..)
  rw [written, Entries.names_append, List.nodup_append]
  refine ⟨hknown.nodup (by decide), hp.names, ?_⟩
  rintro _ hk _ hmem rfl
  obtain ⟨f, hf, rfl⟩ := List.mem_map.mp hmem
  exact hp.unknown f hf (hknown.subset hk)

/-- What is written has the keys of the draft that was read, and `required`. -/
theorem mem_names_written (h : q.Finishes p) (hp : p.IsDecoded) :
    key ∈ p.written.names ↔ key = "required" ∨ key ∈ q.keys := by
  have hdraft := finishes_draft hp
  rw [names_written, Draft.mem_keys, Draft.mem_keys, ← h.mem_names, ← hdraft.mem_names, h.name,
    h.location, h.type, h.description, h.schema, hdraft.name, hdraft.location, hdraft.type,
    hdraft.description, hdraft.schema]
  have hrequired : p.draft.required.isSome = true := rfl
  grind

/-- **Parameters survive writing.** What a JSON value decodes to is decoded again from what is written for it,
with its extra keys in their order, and then the same is written for it. The keys that are written are those
of the value, except known ones that may be `null` and are, and `required`; each of them is written once. -/
theorem decode_toJson_and_keys (j : Json) (p : Parameter) (h : decode (Data.ofJson j) = .ok p) :
    decode (Data.ofJson p.toJson) = .ok p ∧
      (decode (Data.ofJson p.toJson)).map toJson = .ok p.toJson ∧
      ∃ fields written : Entries Json, j = .obj fields ∧ p.toJson = .obj written ∧
        written.names.Nodup ∧
        ∀ key, key ∈ written.names ↔
          key = "required" ∨ ∃ v, (key, v) ∈ fields ∧ (key ∈ optionalFields → v ≠ .null) := by
  have hp := isDecoded_of_decode h
  obtain ⟨fields, q, rfl, hq, hfinish⟩ := decode_ofJson_eq_ok.mp h
  refine ⟨hp.readsBack, by rw [hp.readsBack]; rfl, fields, p.written, rfl, rfl,
    nodup_names_written hp, fun key => ?_⟩
  rw [mem_names_written hfinish hp, Draft.mem_keys_fill hq]
  simp [Draft.keys, Draft.keyIf]

/-- A parameter with an unknown location, a type that is `null` and extra keys around them, one of them
`null` as well. -/
theorem decode_toJson_and_keys_cookie :
    let j : Json := .obj [("x-order", .int 2), ("in", .str "cookie"), ("type", .null),
      ("name", .str "session"), ("format", .null)]
    let p : Parameter := { name := "session", location := .unknown "cookie",
                           extra := [("x-order", .int 2), ("format", .null)] }
    decode (Data.ofJson j) = .ok p ∧ decode (Data.ofJson p.toJson) = .ok p ∧
      ∃ written : Entries Json, p.toJson = .obj written ∧ "format" ∈ written.names ∧
        "type" ∉ written.names := by
  intro j p
  have hj : decode (Data.ofJson j) = .ok p := by rfl
  obtain ⟨hback, -, fields, written, hfields, hwritten, -, hkeys⟩ := decode_toJson_and_keys j p hj
  obtain rfl := Json.obj.inj hfields
  refine ⟨hj, hback, written, hwritten, ?_, ?_⟩
  · exact (hkeys _).mpr (.inr ⟨.null, by simp, fun h => absurd h (by decide)⟩)
  · rw [hkeys]
    rintro (heq | ⟨v, hv, hnull⟩)
    · exact absurd heq (by decide)
    · have hv : v = .null := by simpa using hv
      exact hnull (by decide) hv

end ApiScaffold.Parameter
