import ApiScaffold.Data.Decode
import ApiScaffold.Proofs.Built
import ApiScaffold.Proofs.Pairing

/-!
# JSON values as data

A repeated key keeps only its last value, so what is read as a JSON value has distinct keys in every object
(`Json.DistinctKeys`), whatever the format was. Such a value goes to data and comes back as it was
(`Data.toJson?_ofJson`). What is said of all JSON values of data is said of the values of leaves, and then of
arrays and of objects with distinct keys (`Data.AllLeaves.toJson?`).

The second half is about decoders. One reads a value back if it gives just the value for the data of its
JSON value (`Data.ReadsBack`). Lists, named values and optional values are read back if their parts are.
-/

namespace ApiScaffold

/-- **Distinct keys** in every object of a value. -/
inductive Json.DistinctKeys : Json → Prop
  | null : DistinctKeys .null
  | bool (b : Bool) : DistinctKeys (.bool b)
  | int (n : Int) : DistinctKeys (.int n)
  | float (x : Binary64) : DistinctKeys (.float x)
  | str (s : String) : DistinctKeys (.str s)
  | arr {items : List Json} (h : ∀ v ∈ items, DistinctKeys v) : DistinctKeys (.arr items)
  | obj {fields : List (String × Json)} (names : (Entries.names fields).Nodup)
      (h : ∀ f ∈ fields, DistinctKeys f.2) : DistinctKeys (.obj fields)

namespace Data

/-! ### There and back -/

theorem ofJsonItems_eq_map (items : List Json) : ofJsonItems items = items.map ofJson := by
  induction items with
  | nil => rfl
  | cons v rest ih => rw [ofJsonItems, ih, List.map_cons]

theorem ofJsonFields_eq_map (fields : List (String × Json)) :
    ofJsonFields fields = fields.map fun f => (f.1, ofJson f.2) := by
  induction fields with
  | nil => rfl
  | cons field rest ih => rw [ofJsonFields, ih, List.map_cons]

/-- The values of items are those of each, and there are none if one cannot be read. -/
theorem toJsonItems?_eq_some {items : List Data} {values : List Json} :
    toJsonItems? items = some values ↔
      List.Forall₂ (fun d v => toJson? d = some v) items values := by
  induction items generalizing values with
  | nil => rw [toJsonItems?, List.forall₂_nil_left_iff, Option.some_inj, eq_comm]
  | cons d rest ih =>
    rw [toJsonItems?, List.forall₂_cons_left_iff]
    simp only [← ih]
    cases toJson? d with
    | none => simp
    | some v =>
      cases toJsonItems? rest with
      | none => simp
      | some vs => simp [eq_comm]

/-- The values of fields keep the keys, repeated ones included. -/
theorem toJsonFields?_eq_some {fields : List (String × Data)} {values : List (String × Json)} :
    toJsonFields? fields = some values ↔
      List.Forall₂ (fun f g => f.1 = g.1 ∧ toJson? f.2 = some g.2) fields values := by
  induction fields generalizing values with
  | nil => rw [toJsonFields?, List.forall₂_nil_left_iff, Option.some_inj, eq_comm]
  | cons field rest ih =>
    obtain ⟨k, d⟩ := field
    rw [toJsonFields?, List.forall₂_cons_left_iff]
    simp only [← ih]
    cases toJson? d with
    | none => simp
    | some v =>
      cases toJsonFields? rest with
      | none => simp
      | some vs =>
        constructor
        · intro h
          obtain rfl := Option.some.inj h
          exact ⟨(k, v), vs, ⟨rfl, rfl⟩, rfl, rfl⟩
        · rintro ⟨⟨k', v'⟩, vs', ⟨hk, hv⟩, hvs, rfl⟩
          obtain rfl : k = k' := hk
          obtain rfl := Option.some.inj hv
          obtain rfl := Option.some.inj hvs
          rfl

/-- **Values with distinct keys** come back as they were. Data keeps the fields of an object as they are
listed, so the keys are all that could be lost. -/
theorem toJson?_ofJson {v : Json} (h : v.DistinctKeys) : (ofJson v).toJson? = some v := by
  induction h with
  | null => rfl
  | bool b => rfl
  | int n => rfl
  | float x => rfl
  | str s => rfl
  | arr _ ih =>
    rename_i items _
    have hitems : toJsonItems? (items.map ofJson) = some items := by
      rw [toJsonItems?_eq_some, List.forall₂_map_left_iff, List.forall₂_same]
      exact ih
    rw [ofJson, ofJsonItems_eq_map, toJson?, hitems]
    rfl
  | obj names _ ih =>
    rename_i fields _
    have hfields : toJsonFields? (fields.map fun f => (f.1, ofJson f.2)) = some fields := by
      rw [toJsonFields?_eq_some, List.forall₂_map_left_iff, List.forall₂_same]
      exact fun f hf => ⟨rfl, ih f hf⟩
    rw [ofJson, ofJsonFields_eq_map, toJson?, hfields, Option.map_some,
      Entries.ofPairs_of_nodup names]

/-- **All leaves** of data have a property. A scalar counts as what it is where any type is welcome. -/
inductive AllLeaves (p : Leaf → Prop) : Data → Prop
  | leaf {l : Leaf} (h : p l) : AllLeaves p (.leaf l)
  | scalar {s : Scalar} (h : p s.leaf) : AllLeaves p (.scalar s)
  | labelled (label : String) {d : Data} (h : AllLeaves p d) : AllLeaves p (.labelled label d)
  | seq (format : Format) {items : List Data} (h : ∀ d ∈ items, AllLeaves p d) :
    AllLeaves p (.seq format items)
  | map (format : Format) {fields : List (String × Data)} (h : ∀ f ∈ fields, AllLeaves p f.2) :
    AllLeaves p (.map format fields)
  | looseMap {fields : List (String × Data)} (h : ∀ f ∈ fields, AllLeaves p f.2) :
    AllLeaves p (.looseMap fields)

/-- What all leaves there are have in common, those of any data have. -/
theorem allLeaves_of_forall {p : Leaf → Prop} (h : ∀ l, p l) (d : Data) : d.AllLeaves p := by
  induction d using Data.induct with
  | leaf l => exact .leaf (h l)
  | scalar s => exact .scalar (h s.leaf)
  | labelled label d ih => exact .labelled label ih
  | seq format items ih => exact .seq format ih
  | map format fields ih => exact .map format ih
  | looseMap fields ih => exact .looseMap ih

/-- **Values of data have what is handed on from leaves**: a property of the JSON values of leaves that arrays, and
objects with distinct keys, take over from their parts. -/
theorem AllLeaves.toJson? {p : Leaf → Prop} {P : Json → Prop}
    (hleaf : ∀ {l v}, p l → l.toJson? = some v → P v)
    (harr : ∀ {items : List Json}, (∀ v ∈ items, P v) → P (.arr items))
    (hobj : ∀ {fields : List (String × Json)}, (Entries.names fields).Nodup →
      (∀ f ∈ fields, P f.2) → P (.obj fields))
    {d : Data} {v : Json} (hd : d.AllLeaves p) (h : d.toJson? = some v) : P v := by
  have hmap {fields : List (String × Data)} {v : Json}
      (ih : ∀ f ∈ fields, ∀ {v : Json}, f.2.toJson? = some v → P v)
      (h : (toJsonFields? fields).map (fun fs => .obj (Entries.ofPairs fs)) = some v) : P v := by
    obtain ⟨pairs, hpairs, rfl⟩ := Option.map_eq_some_iff.mp h
    refine hobj (Entries.nodup_ofPairs pairs) fun g hg => ?_
    obtain ⟨f, hf, -, hvalue⟩ := Pairing.exists_left_of_mem (toJsonFields?_eq_some.mp hpairs)
      (Entries.mem_of_mem_ofPairs hg)
    exact ih f hf hvalue
  induction hd generalizing v with
  | leaf hl => exact hleaf hl h
  | scalar hs => exact hleaf hs h
  | labelled label _ _ => cases h
  | seq format _ ih =>
    obtain ⟨values, hvalues, rfl⟩ := Option.map_eq_some_iff.mp h
    refine harr fun v hv => ?_
    obtain ⟨d, hd, hvalue⟩ := Pairing.exists_left_of_mem (toJsonItems?_eq_some.mp hvalues) hv
    exact ih d hd hvalue
  | map format _ ih => exact hmap ih h
  | looseMap _ ih => exact hmap ih h

/-- **Values of data** have distinct keys in every object, whatever the data repeats. -/
theorem distinctKeys_of_toJson? {d : Data} {v : Json} (h : d.toJson? = some v) : v.DistinctKeys := by
  refine AllLeaves.toJson? (p := fun _ => True) ?_ .arr .obj
    (allLeaves_of_forall (fun _ => trivial) d) h
  intro l v _ h
  cases l <;> cases h <;> constructor

/-- Keys of data of a JSON value are texts. -/
theorem hasTextKeys_ofJson (v : Json) : (ofJson v).hasTextKeys = true := by
  induction v using Json.induct with
  | null => rfl
  | bool b => rfl
  | int n => rfl
  | float x => rfl
  | str s => rfl
  | arr items ih =>
    rw [ofJson, ofJsonItems_eq_map, hasTextKeys]
    induction items with
    | nil => rfl
    | cons v rest ihrest =>
      obtain ⟨hv, hrest⟩ := List.forall_mem_cons.mp ih
      rw [List.map_cons, haveTextKeys, hv, ihrest hrest, Bool.and_self]
  | obj fields ih =>
    rw [ofJson, ofJsonFields_eq_map, hasTextKeys]
    induction fields with
    | nil => rfl
    | cons f rest ihrest =>
      obtain ⟨hf, hrest⟩ := List.forall_mem_cons.mp ih
      rw [List.map_cons, fieldsHaveTextKeys, hf, ihrest hrest, Bool.and_self]

/-- Only `null` is read as `null`. -/
theorem eq_null_of_toJson?_ofJson {v : Json} (h : (ofJson v).toJson? = some .null) : v = .null := by
  cases v with
  | null => rfl
  | bool b => cases h
  | int n => cases h
  | float x => cases h
  | str s => cases h
  | arr items =>
    obtain ⟨_, _, heq⟩ := Option.map_eq_some_iff.mp h
    cases heq
  | obj fields =>
    obtain ⟨_, _, heq⟩ := Option.map_eq_some_iff.mp h
    cases heq

/-! ### Decoders -/

/-- Any JSON value is welcome where one is asked for. -/
theorem json_eq_ok {d : Data} {v : Json} : d.json = .ok v ↔ d.toJson? = some v := by
  rw [json]
  cases d.toJson? <;> simp [mismatch]

/-- One with texts for keys is read in the same way. -/
theorem toJson?_of_textKeyedJson {d : Data} {v : Json} (h : d.textKeyedJson = .ok v) :
    d.toJson? = some v := by
  rw [textKeyedJson] at h
  split at h
  · exact json_eq_ok.mp h
  · cases h

/-- A JSON value that may be missing is the value of its data. -/
theorem toJson?_of_optional_json {d : Data} {v : Json} (h : d.optional json = .ok (some v)) :
    d.toJson? = some v := by
  obtain ⟨absent, -, h⟩ := Built.bind_eq_ok.mp h
  cases absent with
  | true => cases h
  | false =>
    obtain ⟨w, hw, h⟩ := Built.bind_eq_ok.mp h
    cases h
    exact json_eq_ok.mp hw

variable {α σ : Type} {decode : Data → Decoded α} {encode : α → Json}

/-- **Read back**: from the data of its JSON value the decoder gives what was written. -/
def ReadsBack (decode : Data → Decoded α) (encode : α → Json) (a : α) : Prop :=
  decode (ofJson (encode a)) = .ok a

/-- Values with distinct keys are read back where any value is welcome. -/
theorem readsBack_json {v : Json} (h : v.DistinctKeys) : ReadsBack json id v := by
  rw [ReadsBack, id, json, toJson?_ofJson h]

/-- They are read back where keys have to be texts as well: those of a written value always are. -/
theorem readsBack_textKeyedJson {v : Json} (h : v.DistinctKeys) : ReadsBack textKeyedJson id v := by
  rw [ReadsBack, id, textKeyedJson, hasTextKeys_ofJson, if_pos rfl]
  exact readsBack_json h

/-- A natural is read back if it is below the limit. -/
theorem readsBack_natural {limit n : Nat} (h : n < limit) :
    ReadsBack (natural limit) (fun n => .int n) n := by
  change (if n < limit then Except.ok n else mismatch) = _
  rw [if_pos h]

/-- A pass over written items decodes each of them. -/
theorem mapM_ofJsonItems {items : List α} (h : ∀ a ∈ items, ReadsBack decode encode a) :
    (ofJsonItems (items.map encode)).mapM decode = .ok items := by
  rw [ofJsonItems_eq_map, Built.mapM_eq_ok, List.forall₂_map_left_iff, List.forall₂_map_left_iff,
    List.forall₂_same]
  exact h

/-- **Lists** are read back if their items are, item by item and in order. -/
theorem ReadsBack.list {items : List α} (h : ∀ a ∈ items, ReadsBack decode encode a) :
    ReadsBack (fun d => d.list decode) (fun items => .arr (items.map encode)) items :=
  mapM_ofJsonItems h

/-- Named values that are new are put after those before them. -/
theorem fieldsOf_map (data : α → Data) {es before : Entries α}
    (h : ∀ e ∈ es, decode (data e.2) = .ok e.2) (hnames : (before ++ es).names.Nodup) :
    fieldsOf decode (es.map fun e => (e.1, data e.2)) before = .ok (before ++ es) := by
  induction es generalizing before with
  | nil => rw [List.append_nil]; rfl
  | cons e rest ih =>
    obtain ⟨k, a⟩ := e
    obtain ⟨ha, hrest⟩ := List.forall_mem_cons.mp h
    have hnew : k ∉ before.names := by
      intro hmem
      rw [Entries.names, List.map_append] at hnames
      exact (List.nodup_append.mp hnames).2.2 k hmem k List.mem_cons_self rfl
    rw [List.map_cons, fieldsOf, ha]
    change fieldsOf decode _ (before.insert k a) = _
    rw [Entries.insert_of_not_mem hnew, ih hrest (by simpa using hnames), List.append_assoc]
    rfl

/-- **Named values** with distinct names are read back if the values are. -/
theorem ReadsBack.entries {es : Entries α} (hnames : es.names.Nodup)
    (h : ∀ e ∈ es, ReadsBack decode encode e.2) :
    ReadsBack (fun d => d.entries decode) (fun es => .obj (es.mapValues encode)) es := by
  change fieldsOf decode (ofJsonFields (es.mapValues encode)) [] = _
  rw [ofJsonFields_eq_map, Entries.mapValues, List.map_map]
  exact fieldsOf_map (fun a => ofJson (encode a)) h hnames

/-- Of written values, only `null` counts as absent. -/
theorem isAbsent_ofJson (v : Json) : (ofJson v).isAbsent = .ok v.isNull := by
  cases v <;> rfl

theorem isNull_iff {v : Json} : v.isNull = true ↔ v = .null := by
  cases v <;> simp [Json.isNull]

/-- A value that may be missing is missing exactly if it is `null`. -/
theorem optional_ofJson_eq_ok {v : Json} {o : Option α} :
    optional decode (ofJson v) = .ok o ↔
      v = .null ∧ o = none ∨ v ≠ .null ∧ ∃ a, decode (ofJson v) = .ok a ∧ o = some a := by
  rw [optional, isAbsent_ofJson]
  cases hnull : v.isNull with
  | true =>
    rw [isNull_iff.mp hnull]
    change Except.ok none = _ ↔ _
    simp [eq_comm]
  | false =>
    have hne : v ≠ .null := fun h => by simp [h, Json.isNull] at hnull
    change ((decode (ofJson v)) >>= fun a => .ok (some a)) = _ ↔ _
    rw [Built.bind_eq_ok]
    simp [hne, eq_comm]

/-- **Values that may be missing** are read back if no value is written as `null`. -/
theorem ReadsBack.optional {a : α} (h : ReadsBack decode encode a) (hnull : encode a ≠ .null) :
    optional decode (ofJson (encode a)) = .ok (some a) :=
  optional_ofJson_eq_ok.mpr (.inr ⟨hnull, a, h, rfl⟩)

end Data

end ApiScaffold
