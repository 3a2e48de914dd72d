import ApiScaffold.Build.Parameters
import ApiScaffold.Proofs.Built

/-!
# Merged parameters

`ParameterBuckets.merge` checks and sorts in one pass. Apart from its checks it is a sorting
(`ParameterBuckets.ofList`) of what the path hands down (`ParameterBuckets.inherited`) and what the
operation declares, in this order; `ParameterBuckets.merge_eq_ok` says so, and when the checks are met.
So the buckets are a partition of both.
-/

namespace ApiScaffold

namespace ParameterLocation

/-- **Recognised locations**: every one but a tag without a meaning. -/
def IsKnown (l : ParameterLocation) : Prop := ∀ tag, l ≠ .unknown tag

end ParameterLocation

namespace ParameterBuckets

variable {api : Description}

/-- **Parameters sorted by location**, each bucket in the order of the list. -/
def ofList (ps : List Parameter) : ParameterBuckets where
  path := ps.filter fun p => p.location = .path
  query := ps.filter fun p => p.location = .query
  header := ps.filter fun p => p.location = .header
  formData := ps.filter fun p => p.location = .formData
  body := ps.filter fun p => p.location = .body

/-- What the path of an operation hands down to it: the shared parameters that the operation does not
declare anew. -/
def inherited (own shared : List Parameter) : List Parameter :=
  shared.filter fun p => !redeclares own p.name

theorem redeclares_iff {own : List Parameter} {name : String} :
    redeclares own name = true ↔ ∃ p ∈ own, p.name = name := by
  simp [redeclares]

theorem inherited_cons_of_redeclared {own shared : List Parameter} {p : Parameter}
    (h : redeclares own p.name = true) : inherited own (p :: shared) = inherited own shared := by
  simp [inherited, h]

theorem inherited_cons_of_not_redeclared {own shared : List Parameter} {p : Parameter}
    (h : ¬ redeclares own p.name = true) :
    inherited own (p :: shared) = p :: inherited own shared := by
  simp [inherited, h]

/-! ### One parameter after the other -/

/-- A parameter of a recognised location goes to the end of its bucket. -/
theorem place_ofList {ps : List Parameter} {p : Parameter} {b : ParameterBuckets} :
    (ofList ps).place p = .ok b ↔ p.location.IsKnown ∧ ofList (ps ++ [p]) = b := by
  rw [place]
  cases h : p.location <;> simp [ParameterLocation.IsKnown, ofList, h]

/-- **Shared parameters** are placed if their entries resolve and what is handed down has a recognised
location other than the body. -/
theorem placeShared_ofList {own : List Parameter} {entries : List ParameterEntry}
    {ps : List Parameter} {b : ParameterBuckets} :
    placeShared api own entries (ofList ps) = .ok b ↔
      ∃ shared, List.Forall₂ (fun entry p => api.resolveParameter entry = .ok p) entries shared ∧
        (∀ p ∈ inherited own shared, p.location.IsKnown ∧ p.location ≠ .body) ∧
        ofList (ps ++ inherited own shared) = b := by
  induction entries generalizing ps b with
  | nil => simp [placeShared, inherited]
  | cons entry rest ih =>
    rw [placeShared, Built.bind_eq_ok]
    simp only [List.forall₂_cons_left_iff]
    constructor
    · rintro ⟨p, hp, h⟩
      by_cases hown : redeclares own p.name = true
      -- a parameter that the operation declares anew is passed over without a check
      · rw [if_pos hown] at h
        obtain ⟨shared, hshared, hknown, rfl⟩ := ih.mp h
        rw [← inherited_cons_of_redeclared hown] at hknown ⊢
        exact ⟨p :: shared, ⟨p, shared, hp, hshared, rfl⟩, hknown, rfl⟩
      · rw [if_neg hown] at h
        by_cases hbody : p.location = .body
        · rw [if_pos hbody] at h
          cases h
        · rw [if_neg hbody, Built.bind_eq_ok] at h
          obtain ⟨c, hplace, h⟩ := h
          obtain ⟨hp', rfl⟩ := place_ofList.mp hplace
          obtain ⟨shared, hshared, hknown, rfl⟩ := ih.mp h
          refine ⟨p :: shared, ⟨p, shared, hp, hshared, rfl⟩, ?_, ?_⟩
          · rw [inherited_cons_of_not_redeclared hown, List.forall_mem_cons]
            exact ⟨⟨hp', hbody⟩, hknown⟩
          · rw [inherited_cons_of_not_redeclared hown, List.append_assoc, List.singleton_append]
    · rintro ⟨_, ⟨p, shared, hp, hshared, rfl⟩, hknown, rfl⟩
      refine ⟨p, hp, ?_⟩
      by_cases hown : redeclares own p.name = true
      · rw [inherited_cons_of_redeclared hown] at hknown
        rw [if_pos hown, inherited_cons_of_redeclared hown]
        exact ih.mpr ⟨shared, hshared, hknown, rfl⟩
      · rw [inherited_cons_of_not_redeclared hown, List.forall_mem_cons] at hknown
        obtain ⟨⟨hp', hbody⟩, hknown⟩ := hknown
        rw [if_neg hown, if_neg hbody, Built.bind_eq_ok]
        refine ⟨_, place_ofList.mpr ⟨hp', rfl⟩, ih.mpr ⟨shared, hshared, hknown, ?_⟩⟩
        rw [inherited_cons_of_not_redeclared hown, List.append_assoc, List.singleton_append]

/-! ### The whole merge -/

/-- **Success of a merge**: all entries resolve, what the path hands down has a recognised location
other than the body, and what the operation declares has a recognised location. The result sorts the
first and then the second. -/
theorem merge_eq_ok {item : PathItem} {operation : Operation} {b : ParameterBuckets} :
    merge api item operation = .ok b ↔
      ∃ own shared,
        List.Forall₂ (fun entry p => api.resolveParameter entry = .ok p) operation.parameters own ∧
        List.Forall₂ (fun entry p => api.resolveParameter entry = .ok p) item.parameters shared ∧
        (∀ p ∈ inherited own shared, p.location.IsKnown ∧ p.location ≠ .body) ∧
        (∀ p ∈ own, p.location.IsKnown) ∧
        ofList (inherited own shared ++ own) = b := by
  have hempty : ({} : ParameterBuckets) = ofList [] := rfl
  simp only [merge, hempty, Built.bind_eq_ok, Built.mapM_eq_ok]
  constructor
  · rintro ⟨own, hown, c, hc, h⟩
    obtain ⟨shared, hshared, hinherited, rfl⟩ := placeShared_ofList.mp hc
    obtain ⟨hknown, rfl⟩ := (Built.foldlM_eq_ok place_ofList).mp h
    exact ⟨own, shared, hown, hshared, hinherited, hknown, rfl⟩
  · rintro ⟨own, shared, hown, hshared, hinherited, hknown, rfl⟩
    exact ⟨own, hown, _, placeShared_ofList.mpr ⟨shared, hshared, hinherited, rfl⟩,
      (Built.foldlM_eq_ok place_ofList).mpr ⟨hknown, rfl⟩⟩

/-! ### Buckets as a partition -/

/-- **The bucket of a location**; a tag without a meaning has none. -/
def bucket (b : ParameterBuckets) : ParameterLocation → List Parameter
  | .path => b.path
  | .query => b.query
  | .header => b.header
  | .formData => b.formData
  | .body => b.body
  | .unknown _ => []

/-- Sorting puts into each bucket what has its location, as long as nothing has an unknown one. -/
theorem bucket_ofList {ps : List Parameter} (hknown : ∀ p ∈ ps, p.location.IsKnown)
    (l : ParameterLocation) : (ofList ps).bucket l = ps.filter fun p => p.location = l := by
  cases l with
  | unknown tag =>
    have hnone : ∀ p ∈ ps, ¬ decide (p.location = .unknown tag) = true := by
      simpa using fun p hp => hknown p hp tag
    exact (List.filter_eq_nil_iff.mpr hnone).symm
  | _ => rfl

/-- What a path hands down has no name that the operation declares. -/
theorem filter_name_inherited {own shared : List Parameter} {q : Parameter} (hq : q ∈ own) :
    (inherited own shared).filter (fun p => p.name = q.name) = [] := by
  refine List.filter_eq_nil_iff.mpr fun p hp hname => ?_
  have hown : redeclares own p.name = true :=
    redeclares_iff.mpr ⟨q, hq, (of_decide_eq_true hname).symm⟩
  simp [inherited, hown] at hp

open scoped Classical in
/-- A parameter is found under its own location as often as anywhere, and under no other. -/
theorem countP_filter_location (ps : List Parameter) (p : Parameter) (l : ParameterLocation) :
    (ps.filter fun q => q.location = l).countP (fun q => q = p) =
      if l = p.location then ps.countP (fun q => q = p) else 0 := by
  rw [List.countP_filter]
  split
  next hl =>
    refine List.countP_congr fun q _ => ?_
    simp only [Bool.and_eq_true, decide_eq_true_eq, and_iff_left_iff_imp]
    rintro rfl
    exact hl.symm
  next hl =>
    refine List.countP_eq_zero.mpr fun q _ hq => hl ?_
    simp only [Bool.and_eq_true, decide_eq_true_eq] at hq
    rw [← hq.1, hq.2]

open scoped Classical in
/-- **Layers are a partition without loss.** Where the parameters of a path and an operation merge, each
bucket holds what the path hands down of its location and then what the operation declares there, both
in the order of declaration. So each of these parameters stands in the bucket of its location as often
as it is declared, and in no other; of a name that the operation declares, each bucket holds what the
operation itself declares, wherever the path has it; and the body holds only what the operation
declares. -/
theorem merge_partitions {api : Description} {item : PathItem} {operation : Operation}
    {b : ParameterBuckets} (h : merge api item operation = .ok b) :
    ∃ own shared, operation.parameters.mapM api.resolveParameter = .ok own ∧
      item.parameters.mapM api.resolveParameter = .ok shared ∧
      (∀ l, b.bucket l = (inherited own shared).filter (fun p => p.location = l) ++
        own.filter fun p => p.location = l) ∧
      (∀ p l, (b.bucket l).countP (fun q => q = p) =
        if l = p.location then (inherited own shared ++ own).countP (fun q => q = p) else 0) ∧
      (∀ q ∈ own, ∀ l, (b.bucket l).filter (fun p => p.name = q.name) =
        (own.filter fun p => p.location = l).filter fun p => p.name = q.name) ∧
      b.body = own.filter fun p => p.location = .body := by
  obtain ⟨own, shared, hown, hshared, hhanded, hknown, rfl⟩ := merge_eq_ok.mp h
  have hall : ∀ p ∈ inherited own shared ++ own, p.location.IsKnown :=
    List.forall_mem_append.mpr ⟨fun p hp => (hhanded p hp).1, hknown⟩
  have hbucket (l : ParameterLocation) : (ofList (inherited own shared ++ own)).bucket l =
      (inherited own shared).filter (fun p => p.location = l) ++
        own.filter fun p => p.location = l := by
    rw [bucket_ofList hall, List.filter_append]
  refine ⟨own, shared, Built.mapM_eq_ok.mpr hown, Built.mapM_eq_ok.mpr hshared, hbucket, ?_, ?_, ?_⟩
  · intro p l
    rw [bucket_ofList hall, countP_filter_location]
  · intro q hq l
    rw [hbucket, List.filter_append, List.filter_comm, filter_name_inherited hq, List.filter_nil,
      List.nil_append]
  · have hbody : (inherited own shared).filter (fun p => p.location = .body) = [] :=
      List.filter_eq_nil_iff.mpr fun p hp => by simpa using (hhanded p hp).2
    refine (hbucket .body).trans ?_
    rw [hbody, List.nil_append]

/-- A path takes its limit from the shared parameters into the query, and its operation has a limit in a
header and a tag twice: the header has the limit of the operation, and the query the tag twice. -/
theorem merge_partitions_limit :
    let limit : Parameter := { name := "limit", location := .query }
    let id : Parameter := { name := "id", location := .path }
    let ownLimit : Parameter := { name := "limit", location := .header }
    let tag : Parameter := { name := "tag", location := .query }
    let api : Description := { parameters := [("limit", limit)] }
    let item : PathItem := { parameters := [.reference "#/parameters/limit", .inline id] }
    let operation : Operation := { parameters := [.inline tag, .inline ownLimit, .inline tag] }
    let b : ParameterBuckets := { path := [id], query := [tag, tag], header := [ownLimit] }
    merge api item operation = .ok b ∧ ∃ own shared,
      operation.parameters.mapM api.resolveParameter = .ok own ∧
      item.parameters.mapM api.resolveParameter = .ok shared ∧
      ∀ l, b.bucket l = (inherited own shared).filter (fun p => p.location = l) ++
        own.filter fun p => p.location = l := by
  intro limit id ownLimit tag api item operation b
  have h : merge api item operation = .ok b := rfl
  obtain ⟨own, shared, hown, hshared, hbuckets, -⟩ := merge_partitions h
  exact ⟨h, own, shared, hown, hshared, hbuckets⟩

end ParameterBuckets

end ApiScaffold
