import ApiScaffold.Resolution
import Mathlib.Data.List.Forall2

/-!
# Where a resolved name comes from

`Resolution.resolve` answers in tiers. Here its middle tier is described without the search that
finds it: a name is drawn from the first step, in the order of the dependencies, that lists it
(`Resolution.FirstSource`), and only when the run configuration says nothing about it.
`Resolution.Tier` describes all three tiers in this way, and `Resolution.resolve_eq_iff` says that a
name resolves to what one of them gives.
-/

namespace ApiScaffold

namespace Resolution

/-- **First source** of a name: the dependencies list it under a step, and under none before it. -/
def FirstSource (deps : Dependencies) (step name : String) : Prop :=
  ∃ before fields after, deps = before ++ (step, fields) :: after ∧ name ∈ fields ∧
    ∀ entry ∈ before, name ∉ entry.2

/-- A source is one of the steps that are declared. -/
theorem FirstSource.mem_names {deps : Dependencies} {step name : String}
    (h : FirstSource deps step name) : step ∈ deps.names := by
  obtain ⟨before, fields, after, rfl, -, -⟩ := h
  simp [Entries.names]

/-- The source that is found is the first one in the order of the document. -/
theorem source?_eq_some_iff {deps : Dependencies} {step name : String} :
    source? deps name = some step ↔ FirstSource deps step name := by
  rw [source?, Option.map_eq_some_iff]
  constructor
  · rintro ⟨⟨k, fields⟩, hfind, rfl⟩
    obtain ⟨hname, before, after, rfl, hbefore⟩ := List.find?_eq_some_iff_append.mp hfind
    exact ⟨before, fields, after, rfl, by simpa using hname, by simpa using hbefore⟩
  · rintro ⟨before, fields, after, rfl, hname, hbefore⟩
    refine ⟨(step, fields), List.find?_eq_some_iff_append.mpr ⟨?_, before, after, rfl, ?_⟩, rfl⟩
    · simpa using hname
    · simpa using hbefore

/-- **Drawn names**: a name is drawn from a step exactly if no value is set for it and the step is
its first source. The field drawn has that name. -/
theorem resolve_eq_dependency_iff {name step field : String} {pool : ValuePool}
    {deps : Dependencies} :
    resolve name pool deps = .dependency step field ↔
      explicit? pool name = none ∧ FirstSource deps step name ∧ field = name := by
  rw [resolve, ← source?_eq_some_iff]
  cases explicit? pool name with
  | some v => simp
  | none =>
    cases source? deps name with
    | some s => simp [eq_comm]
    | none => simp

/-! ### Three tiers -/

/-- **Unset names**: a pool has nothing for them but `null`. -/
def Unset (pool : ValuePool) (name : String) : Prop := ∀ v, pool.get? name = some v → v = .null

/-- A value is explicit if the pool has one other than `null`. -/
theorem explicit?_eq_some_iff {pool : ValuePool} {name : String} {v : Json} :
    explicit? pool name = some v ↔ pool.get? name = some v ∧ v ≠ .null := by
  have hnull : v.isNull = false ↔ v ≠ .null := by
    cases v <;> simp [Json.isNull]
  rw [explicit?, Option.filter_eq_some_iff, Bool.not_eq_true', hnull]

/-- Otherwise the name is unset. A `null` in the pool counts as if nothing stood there. -/
theorem explicit?_eq_none_iff {pool : ValuePool} {name : String} :
    explicit? pool name = none ↔ Unset pool name := by
  rw [Option.eq_none_iff_forall_ne_some]
  refine forall_congr' fun v => ?_
  rw [Ne, explicit?_eq_some_iff, not_and, not_not]

/-- Without a source, no step declares the name. -/
theorem source?_eq_none_iff {deps : Dependencies} {name : String} :
    source? deps name = none ↔ ∀ entry ∈ deps, name ∉ entry.2 := by
  simp [source?]

/-- **Tiers of a name**: the value that a pool sets for it, unless that is `null`; then the first step
that lists it among the fields drawn from it; then nothing. -/
inductive Tier (pool : ValuePool) (deps : Dependencies) (name : String) : Expression → Prop
  | set {v : Json} (h : pool.get? name = some v) (hv : v ≠ .null) : Tier pool deps name (.literal v)
  | drawn {step : String} (hunset : Unset pool name) (h : FirstSource deps step name) :
    Tier pool deps name (.dependency step name)
  | missing (hunset : Unset pool name) (h : ∀ entry ∈ deps, name ∉ entry.2) :
    Tier pool deps name .missing

/-- **A name resolves to what the first tier gives that has something for it.** -/
theorem resolve_eq_iff {name : String} {pool : ValuePool} {deps : Dependencies} {e : Expression} :
    resolve name pool deps = e ↔ Tier pool deps name e := by
  constructor
  · rintro rfl
    rw [resolve]
    cases hset : explicit? pool name with
    | some v =>
      obtain ⟨h, hv⟩ := explicit?_eq_some_iff.mp hset
      exact .set h hv
    | none =>
      have hunset := explicit?_eq_none_iff.mp hset
      cases hsource : source? deps name with
      | some step => exact .drawn hunset (source?_eq_some_iff.mp hsource)
      | none => exact .missing hunset (source?_eq_none_iff.mp hsource)
  · intro h
    rw [resolve]
    cases h with
    | set h hv => rw [explicit?_eq_some_iff.mpr ⟨h, hv⟩]
    | drawn hunset h => rw [explicit?_eq_none_iff.mpr hunset, source?_eq_some_iff.mpr h]
    | missing hunset h => rw [explicit?_eq_none_iff.mpr hunset, source?_eq_none_iff.mpr h]

/-- Every name resolves in one of the three ways. -/
theorem tier_resolve (name : String) (pool : ValuePool) (deps : Dependencies) :
    Tier pool deps name (resolve name pool deps) := resolve_eq_iff.mp rfl

end Resolution

namespace PathSegment

/-- The name and the expression of a placeholder. -/
def named? : PathSegment → Option (String × Expression)
  | .text _ => none
  | .placeholder name e => some (name, e)

end PathSegment

namespace Resolution

/-- **Segments of tokens**: text is kept as it is, and a placeholder holds what its name resolves
to. -/
inductive SegmentOf (pool : ValuePool) (deps : Dependencies) : PathToken → PathSegment → Prop
  | text (cs : List Char) : SegmentOf pool deps (.text cs) (.text (String.ofList cs))
  | placeholder (name : List Char) {e : Expression} (h : Tier pool deps (String.ofList name) e) :
    SegmentOf pool deps (.placeholder name) (.placeholder (String.ofList name) e)

/-- The segments of a resolved path are those of its tokens, one by one. -/
theorem forall₂_path (template : String) (pool : ValuePool) (deps : Dependencies) :
    List.Forall₂ (SegmentOf pool deps) (PathToken.scan (Braces.decode template.toList))
      (path template pool deps).segments := by
  rw [path, List.forall₂_map_right_iff, List.forall₂_same]
  intro token _
  cases token with
  | text cs => exact .text cs
  | placeholder name => exact .placeholder name (tier_resolve ..)

/-- Each placeholder of a resolved path holds what its name resolves to. -/
theorem path_named {template name : String} {pool : ValuePool} {deps : Dependencies}
    {e : Expression} (h : (name, e) ∈ (path template pool deps).segments.filterMap (·.named?)) :
    e = resolve name pool deps := by
  obtain ⟨segment, hmem, hnamed⟩ := List.mem_filterMap.mp h
  obtain ⟨token, -, rfl⟩ := List.mem_map.mp hmem
  cases token with
  | text cs => cases hnamed
  | placeholder cs =>
    cases hnamed
    rfl

end Resolution

end ApiScaffold
