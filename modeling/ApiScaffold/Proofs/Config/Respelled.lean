import ApiScaffold.Config.Decode
import ApiScaffold.Proofs.Built

/-!
# One spelling of dependencies for all

The fields that a step draws from another are given as one name or as a list of names. A list of one name
means the same as the name, and `RunConfig.singleNames` turns every such list of a configuration into its name.
It reaches the dependencies through the parts of data: all items of a list and all values of a map
(`Data.eachPart`), or one field of a record, found by its name or by its position (`Data.onePart`). Where
decoders of parts do not see a change, decoders of wholes do not either.
-/

namespace ApiScaffold

namespace Data

variable {α σ : Type} {decode : Data → Decoded α} {field : String → Data → Data}
  {item : Nat → Data → Data} {f : Data → Data}

/-! ### Parts -/

/-- **Other parts**: the fields of a map by their names, and the items of a sequence by their positions. -/
def mapParts (field : String → Data → Data) (item : Nat → Data → Data) : Data → Data
  | .labelled label d => .labelled label (mapParts field item d)
  | .seq format items => .seq format (items.mapIdx item)
  | .map format fields => .map format (fields.map fun f => (f.1, field f.1 f.2))
  | .looseMap fields => .looseMap (fields.map fun f => (f.1, field f.1 f.2))
  | .leaf l => .leaf l
  | .scalar s => .scalar s

/-- The same change of every part. -/
def eachPart (f : Data → Data) : Data → Data := mapParts (fun _ => f) (fun _ => f)

/-- **A change of one field** of a record, under its name or at its position. -/
def onePart (names : List String) (name : String) (f : Data → Data) : Data → Data :=
  mapParts (fun k d => if k = name then f d else d) (fun i d => if names[i]? = some name then f d else d)

/-- Labels stand outside of all parts, so it does not matter which is removed first. -/
theorem unlabelled_mapParts (d : Data) :
    (d.mapParts field item).unlabelled = d.unlabelled.mapParts field item := by
  fun_induction mapParts field item d with
  | case1 label d ih => exact ih
  | _ => rfl

/-- The fields of a map are changed one by one, and keep their names. -/
theorem fields?_mapParts (d : Data) : (d.mapParts field item).fields? =
    d.fields?.map (List.map fun f => (f.1, field f.1 f.2)) := by
  rw [fields?, fields?, unlabelled_mapParts]
  cases d.unlabelled <;> rfl

/-- Changing parts does not make data blank. -/
theorem isBlank_mapParts (d : Data) : (d.mapParts field item).isBlank = d.isBlank := by
  rw [isBlank, isBlank, unlabelled_mapParts]
  cases d.unlabelled <;> rfl

/-! ### Decoders that see no change -/

/-- A list is what its items are. -/
theorem list_eachPart (h : ∀ x, decode (f x) = decode x) (d : Data) :
    (d.eachPart f).list decode = d.list decode := by
  have hitems (items : List Data) : (items.mapIdx fun _ => f).mapM decode = items.mapM decode := by
    have hmap : (items.mapIdx fun _ => f) = items.map f := List.ext_getElem? fun i => by simp
    rw [hmap, List.mapM_map]
    exact congrArg (items.mapM ·) (funext h)
  rw [list, list, eachPart, unlabelled_mapParts]
  cases d.unlabelled with
  | seq format items => exact hitems items
  | labelled label d =>
    change (if isBlank (mapParts _ _ (.labelled label d)) then _ else _) = _
    rw [isBlank_mapParts]
  | _ => rfl

/-- Named values are what is named. -/
theorem entries_eachPart (h : ∀ x, decode (f x) = decode x) (d : Data) :
    (d.eachPart f).entries decode = d.entries decode := by
  have hfields (fields : List (String × Data)) (acc : Entries α) :
      fieldsOf decode (fields.map fun g => (g.1, f g.2)) acc = fieldsOf decode fields acc := by
    induction fields generalizing acc with
    | nil => rfl
    | cons g rest ih =>
      rw [List.map_cons, fieldsOf, fieldsOf, h]
      exact congrArg _ (funext fun v => ih _)
  rw [entries, entries, eachPart, fields?_mapParts, isBlank_mapParts]
  cases d.fields? with
  | none => rfl
  | some fields => exact hfields fields []

section

variable {names : List String} {name : String} {set : String → Data → σ → Decoded σ}

/-- **Setting a field** does not see the change if the field's own decoder does not. -/
theorem set_onePart (h : ∀ x r, set name (f x) r = set name x r) (k : String) (d : Data) (r : σ) :
    set k (if k = name then f d else d) r = set k d r := by
  split
  next heq => rw [heq, h]
  next => rfl

theorem recordFields_onePart (h : ∀ x r, set name (f x) r = set name x r)
    (fields : List (String × Data)) (seen : List String) (r : σ) :
    recordFields names set (fields.map fun g => (g.1, if g.1 = name then f g.2 else g.2)) seen r =
      recordFields names set fields seen r := by
  induction fields generalizing seen r with
  | nil => rfl
  | cons g rest ih =>
    rw [List.map_cons, recordFields, recordFields]
    simp only [set_onePart h, ih]

theorem recordItems_onePart (h : ∀ x r, set name (f x) r = set name x r) {strict : Bool}
    (left : List String) (items : List Data) (seen : List String) (r : σ) :
    recordItems strict set left (items.mapIdx fun i d => if left[i]? = some name then f d else d) seen r =
      recordItems strict set left items seen r := by
  induction left generalizing items seen r with
  | nil =>
    cases items with
    | nil => rfl
    | cons d rest => rw [List.mapIdx_cons, recordItems, recordItems]
  | cons k left ih =>
    cases items with
    | nil => rfl
    | cons d rest =>
      rw [List.mapIdx_cons, recordItems, recordItems]
      simp only [List.getElem?_cons_zero, List.getElem?_cons_succ, Option.some.injEq, set_onePart h, ih]

/-- A record is what its fields are. -/
theorem record_onePart (h : ∀ x r, set name (f x) r = set name x r)
    {required requiredByPosition : List String} {init : σ} (d : Data) :
    record names required requiredByPosition init set (d.onePart names name f) =
      record names required requiredByPosition init set d := by
  rw [record, record, onePart, fields?_mapParts, isBlank_mapParts, unlabelled_mapParts]
  cases d.fields? with
  | some fields => simp only [Option.map_some, recordFields_onePart h]
  | none =>
    cases d.unlabelled with
    | seq format items =>
      cases format <;> simp only [Option.map_none, mapParts, recordItems_onePart h]
    | _ => rfl

end

end Data

/-! ### Dependencies -/

namespace Dependencies

/-- **A list of one name** as the name, and all else as it is. -/
def singleName (d : Data) : Data :=
  match d with
  | .seq _ [item] =>
    match fieldName item with
    | .ok _ => item
    | .error _ => d
  | d => d

/-- A single name and a list of just that name are read alike, which is all that the spellings of a step
differ in. -/
theorem fieldNames_singleName (d : Data) : fieldNames (singleName d) = fieldNames d := by
  unfold singleName
  split
  next format item =>
    cases hname : fieldName item with
    | error e => rfl
    | ok s =>
      have hlist : fieldNames (.seq format [item]) = .ok [s] :=
        Built.mapM_eq_ok.mpr (.cons hname .nil)
      have hitem : fieldNames item = (fieldName item).map fun name => [name] := by
        cases item with
        | seq format items => cases hname
        | _ => rfl
      rw [hlist, hitem, hname]
      rfl
  next => rfl

end Dependencies

/-- The step with single names for its dependencies. -/
def SequenceStep.singleNames : Data → Data :=
  Data.onePart fieldNames "deps" (Data.eachPart Dependencies.singleName)

/-- **Single names**: the configuration in which no dependency is a list of one name. -/
def RunConfig.singleNames : Data → Data :=
  Data.onePart fieldNames "sequences" (Data.eachPart (Data.eachPart SequenceStep.singleNames))

/-- A step may have its dependencies spelled either way. -/
theorem SequenceStep.decode_singleNames (d : Data) : decode (singleNames d) = decode d := by
  refine Data.record_onePart (fun x step => ?_) d
  have hdeps : Dependencies.decode (x.eachPart Dependencies.singleName) = Dependencies.decode x :=
    Data.entries_eachPart Dependencies.fieldNames_singleName x
  change (Dependencies.decode _ >>= _) = (Dependencies.decode _ >>= _)
  rw [hdeps]

/-- **Configurations are what they are with single names.** The change is made in three layers, lists of
steps in named sequences in one field, and no decoder on the way sees it. -/
theorem RunConfig.decode_singleNames (d : Data) : decode (singleNames d) = decode d := by
  refine Data.record_onePart (fun x config => ?_) d
  have hsequences : (x.eachPart (Data.eachPart SequenceStep.singleNames)).entries
      (·.list SequenceStep.decode) = x.entries (·.list SequenceStep.decode) :=
    Data.entries_eachPart (Data.list_eachPart SequenceStep.decode_singleNames) x
  change (Data.entries _ _ >>= _) = (Data.entries _ _ >>= _)
  rw [hsequences]

end ApiScaffold
