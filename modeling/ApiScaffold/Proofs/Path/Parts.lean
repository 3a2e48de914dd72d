import ApiScaffold.Proofs.Literal.Escape
import ApiScaffold.Proofs.Path.Origin
import Mathlib.Data.List.Chain

/-!
# Parts of a path's code

The code of a path adds up parts: literals, and fields of earlier responses. Its segments are divided at
the dependencies (`ResolvedPath.Divides`), and the text between two of them, put together from what the
segments spell, is one literal unless it is empty. So the parts are known from the division alone
(`ResolvedPath.parts_eq_of_divides`), and what holds of them is read off it: literals never stand side
by side, and fields stand in the order of the segments.
-/

namespace ApiScaffold

/-! ### What a segment spells -/

namespace PathSegment

/-- **Spelled texts**: a text is spelled as it is, a value that is set as its text or, if it is no
string, as compact JSON, and a missing value as a mark with its name. -/
inductive Spells : PathSegment → String → Prop
  | text (t : String) : Spells (.text t) t
  | string (name s : String) : Spells (.placeholder name (.literal (.str s))) s
  | value (name : String) {v : Json} (h : ∀ s, v ≠ .str s) :
    Spells (.placeholder name (.literal v)) v.compact
  | missing (name : String) :
    Spells (.placeholder name .missing) ("\x7b" ++ name ++ " PARAM GOES HERE\x7d")

/-- The step and the field that a segment draws on. -/
def drawn? : PathSegment → Option (String × String)
  | .placeholder _ (.dependency step field) => some (step, field)
  | _ => none

theorem Spells.literalText? {segment : PathSegment} {t : String} (h : segment.Spells t) :
    segment.literalText? = some t := by
  cases h with
  | text => rfl
  | string => rfl
  | value name hv =>
    rename_i v
    cases v with
    | str s => exact absurd rfl (hv s)
    | _ => rfl
  | missing => rfl

theorem Spells.drawn? {segment : PathSegment} {t : String} (h : segment.Spells t) :
    segment.drawn? = none := by
  cases h <;> rfl

/-- **A segment spells a text or is a dependency.** -/
theorem spells_or_dependency (segment : PathSegment) :
    (∃ t, segment.Spells t) ∨
      ∃ name step field, segment = .placeholder name (.dependency step field) := by
  cases segment with
  | text t => exact .inl ⟨t, .text t⟩
  | placeholder name e =>
    cases e with
    | dependency step field => exact .inr ⟨name, step, field, rfl⟩
    | missing => exact .inl ⟨_, .missing name⟩
    | literal v =>
      by_cases h : ∃ s, v = .str s
      · obtain ⟨s, rfl⟩ := h
        exact .inl ⟨s, .string name s⟩
      · exact .inl ⟨_, .value name fun s hs => h ⟨s, hs⟩⟩

end PathSegment

/-! ### Division at the dependencies -/

/-- **A drawn field** of a path, with the text from there to the next one. -/
structure DrawnField where
  step : String
  field : String
  after : String

/-- **A part** of a path's code. -/
inductive PathPart where
  | literal (text : String)
  | drawn (step field : String)
  deriving DecidableEq, Repr

namespace PathPart

/-- The code of a part. -/
def code : PathPart → String
  | .literal t => Literal.quote t
  | .drawn step field => (Expression.dependency step field).code

/-- Whether a part is a literal. -/
def isLiteral : PathPart → Bool
  | .literal _ => true
  | .drawn _ _ => false

/-- The step and the field that a part draws on. -/
def drawn? : PathPart → Option (String × String)
  | .literal _ => none
  | .drawn step field => some (step, field)

/-- A text as a part, unless it is empty. -/
def literalIfAny (text : String) : List PathPart := if text = "" then [] else [.literal text]

/-- A drawn field with the text after it. -/
def ofField (d : DrawnField) : List PathPart := .drawn d.step d.field :: literalIfAny d.after

/-- **The parts of a divided path**: all text is one literal where nothing is drawn, and otherwise empty
texts are left out. -/
def ofDivision (first : String) : List DrawnField → List PathPart
  | [] => [.literal first]
  | d :: ds => literalIfAny first ++ (d :: ds).flatMap ofField

theorem map_code_literalIfAny (text : String) :
    (literalIfAny text).map code = ResolvedPath.quotedIfAny text := by
  rw [literalIfAny, ResolvedPath.quotedIfAny]
  by_cases h : text = "" <;> simp [h, code]

theorem drawn?_literalIfAny (text : String) : (literalIfAny text).filterMap drawn? = [] := by
  rw [literalIfAny]
  split <;> rfl

theorem drawn?_flatMap_ofField (ds : List DrawnField) :
    (ds.flatMap ofField).filterMap drawn? = ds.map fun d => (d.step, d.field) := by
  induction ds with
  | nil => rfl
  | cons d ds ih =>
    rw [List.flatMap_cons, ofField, List.cons_append, List.filterMap_cons, drawn?,
      List.filterMap_append, drawn?_literalIfAny, ih]
    rfl

theorem drawn?_ofDivision (first : String) (ds : List DrawnField) :
    (ofDivision first ds).filterMap drawn? = ds.map fun d => (d.step, d.field) := by
  cases ds with
  | nil => rfl
  | cons d ds => rw [ofDivision, List.filterMap_append, drawn?_literalIfAny, drawn?_flatMap_ofField]; rfl

/-- Whether one of two parts is drawn. -/
def Apart (a b : PathPart) : Prop := ¬ (a.isLiteral = true ∧ b.isLiteral = true)

/-- Between two texts there is a drawn field. -/
theorem isChain_literalIfAny_append (first : String) (ds : List DrawnField) :
    (literalIfAny first ++ ds.flatMap ofField).IsChain Apart := by
  induction ds generalizing first with
  | nil =>
    rw [List.flatMap_nil, List.append_nil, literalIfAny]
    split
    · exact .nil
    · exact .singleton _
  | cons d ds ih =>
    have hfield : (ofField d ++ ds.flatMap ofField).IsChain Apart := by
      rw [ofField, List.cons_append, List.isChain_cons]
      exact ⟨fun _ _ h => Bool.false_ne_true h.1, ih d.after⟩
    rw [List.flatMap_cons, literalIfAny]
    split
    · exact hfield
    · exact List.isChain_cons_cons.mpr ⟨fun h => Bool.false_ne_true h.2, hfield⟩

theorem isChain_ofDivision (first : String) (ds : List DrawnField) :
    (ofDivision first ds).IsChain Apart := by
  cases ds with
  | nil => exact .singleton _
  | cons d ds => exact isChain_literalIfAny_append first (d :: ds)

theorem ofDivision_ne_nil (first : String) (ds : List DrawnField) : ofDivision first ds ≠ [] := by
  cases ds with
  | nil => exact List.cons_ne_nil _ _
  | cons d ds => exact List.append_ne_nil_of_right_ne_nil _ (List.cons_ne_nil _ _)

/-- Parts that come after some text start with it. -/
theorem exists_ofDivision_eq_literal {first : String} (h : first ≠ "") (ds : List DrawnField) :
    ∃ rest, ofDivision first ds = .literal first :: rest := by
  cases ds with
  | nil => exact ⟨[], rfl⟩
  | cons d ds => exact ⟨(d :: ds).flatMap ofField, by rw [ofDivision, literalIfAny, if_neg h]; rfl⟩

/-- **Only literals are written as literals**: the code of a dependency starts with the object that
holds it. -/
theorem startsWithLiteral_code_iff (part : PathPart) :
    ResolvedPath.StartsWithLiteral part.code ↔ part.isLiteral = true := by
  cases part with
  | literal t => exact iff_of_true ⟨t, "", by rw [code, String.append_empty]⟩ rfl
  | drawn step field =>
    refine iff_of_false ?_ Bool.false_ne_true
    rw [code, Expression.code, String.append_assoc, String.append_assoc]
    exact ResolvedPath.not_startsWithLiteral_dependency _

end PathPart

namespace ResolvedPath

/-- **Division of segments** at the dependencies: the text before the first of them, and each of them
with the text up to the next. Such a text is what the segments there spell, one after the other. -/
inductive Divides : List PathSegment → String → List DrawnField → Prop
  | nil : Divides [] "" []
  | spelled {segment : PathSegment} {t : String} (h : segment.Spells t) {rest : List PathSegment}
    {first : String} {ds : List DrawnField} (hrest : Divides rest first ds) :
    Divides (segment :: rest) (t ++ first) ds
  | drawn (name step field : String) {rest : List PathSegment} {first : String}
    {ds : List DrawnField} (hrest : Divides rest first ds) :
    Divides (.placeholder name (.dependency step field) :: rest) "" (⟨step, field, first⟩ :: ds)

/-- **All segments can be divided** at their dependencies, into a first text and one field with a text
after it for each of them. -/
theorem exists_divides (segments : List PathSegment) : ∃ first ds, Divides segments first ds := by
  induction segments with
  | nil => exact ⟨"", [], .nil⟩
  | cons segment rest ih =>
    obtain ⟨first, ds, hrest⟩ := ih
    rcases segment.spells_or_dependency with ⟨t, ht⟩ | ⟨name, step, field, rfl⟩
    · exact ⟨t ++ first, ds, .spelled ht hrest⟩
    · exact ⟨"", ⟨step, field, first⟩ :: ds, .drawn name step field hrest⟩

variable {segments : List PathSegment} {first : String} {ds : List DrawnField}

theorem Divides.drawn? (h : Divides segments first ds) :
    segments.filterMap (·.drawn?) = ds.map fun d => (d.step, d.field) := by
  induction h with
  | nil => rfl
  | spelled ht _ ih => rw [List.filterMap_cons, ht.drawn?, ih]
  | drawn name step field _ ih => rw [List.filterMap_cons, PathSegment.drawn?, ih]; rfl

/-- Text before the segments goes into their first text. -/
theorem partsFrom_of_divides (h : Divides segments first ds) (text : String) :
    partsFrom text segments =
      quotedIfAny (text ++ first) ++ (ds.flatMap PathPart.ofField).map PathPart.code := by
  induction h generalizing text with
  | nil => rw [partsFrom, String.append_empty, List.flatMap_nil, List.map_nil, List.append_nil]
  | spelled ht _ ih =>
    rw [partsFrom, ht.literalText?]
    dsimp only
    rw [ih, String.append_assoc]
  | drawn name step field _ ih =>
    rw [partsFrom, PathSegment.literalText?, String.append_empty]
    dsimp only
    rw [ih, String.empty_append, List.flatMap_cons, PathPart.ofField, List.map_append, List.map_cons,
      PathPart.map_code_literalIfAny]
    rfl

/-- **Parts of a path** are those of its division. The run over the segments gathers text until it meets
a dependency, so it never writes two literals next to each other. -/
theorem parts_eq_of_divides {path : ResolvedPath} (h : Divides path.segments first ds) :
    path.parts = (PathPart.ofDivision first ds).map PathPart.code := by
  rw [parts, partsFrom_of_divides h, String.empty_append]
  cases ds with
  | nil =>
    rw [quotedIfAny, List.flatMap_nil, List.map_nil, List.append_nil]
    by_cases hfirst : first = "" <;> simp [hfirst, PathPart.ofDivision, PathPart.code]
  | cons d ds =>
    rw [← PathPart.map_code_literalIfAny, ← List.map_append]
    rcases hparts : PathPart.literalIfAny first ++ (d :: ds).flatMap PathPart.ofField with _ | ⟨p, ps⟩
    · exact absurd hparts (PathPart.ofDivision_ne_nil first (d :: ds))
    · rw [PathPart.ofDivision, hparts]
      rfl

/-- A division starts with the text that the segments start with. -/
theorem Divides.first_ne_empty {t : String} {rest : List PathSegment}
    (h : Divides (.text t :: rest) first ds) (ht : t ≠ "") : first ≠ "" := by
  cases h with
  | spelled hspells _ =>
    cases hspells
    exact fun hempty => ht (String.append_eq_empty_iff.mp hempty).1

/-- **The code of a path is a concatenation.** The segments are divided at the dependencies, and the
code adds up the parts of that division. The parts that are no literals are the dependencies, in their
order; each literal is read back as the text between two of them and ends at its last character; no two
literals stand side by side; and the code of a path that starts with some text starts with a literal, so
that what is added up are strings. -/
theorem code_concatenates (path : ResolvedPath) :
    ∃ first ds, Divides path.segments first ds ∧
      let parts := PathPart.ofDivision first ds
      parts ≠ [] ∧ path.code = Text.join " + " (parts.map PathPart.code) ∧
      parts.filterMap (·.drawn?) = path.segments.filterMap (·.drawn?) ∧
      (∀ part ∈ parts, StartsWithLiteral part.code ↔ part.isLiteral = true) ∧
      (∀ t, .literal t ∈ parts → ∃ inside,
        (PathPart.literal t).code.toList = '\'' :: inside ∧
          Literal.unquote? inside = some (t.toList, [])) ∧
      parts.IsChain PathPart.Apart ∧
      ∀ t rest, path.segments = .text t :: rest → t ≠ "" → StartsWithLiteral path.code := by
  obtain ⟨first, ds, hdivides⟩ := exists_divides path.segments
  have hcode : path.code = Text.join " + " ((PathPart.ofDivision first ds).map PathPart.code) := by
    rw [code, parts_eq_of_divides hdivides]
  refine ⟨first, ds, hdivides, PathPart.ofDivision_ne_nil first ds, hcode, ?_,
    fun part _ => part.startsWithLiteral_code_iff, fun t _ => Literal.unquote?_quote t,
    PathPart.isChain_ofDivision first ds, ?_⟩
  · rw [PathPart.drawn?_ofDivision, hdivides.drawn?]
  · intro t rest hsegments ht
    rw [hsegments] at hdivides
    obtain ⟨more, hparts⟩ := PathPart.exists_ofDivision_eq_literal (hdivides.first_ne_empty ht) ds
    obtain ⟨tail, htail⟩ := Text.exists_join_cons " + " (more.map PathPart.code)
    exact ⟨first, tail, by rw [hcode, hparts, List.map_cons, htail, PathPart.code]⟩

/-- Nothing stands between two dependencies without text between them. -/
example : PathPart.ofDivision "" [⟨"create", "a", ""⟩, ⟨"create", "b", "/it's"⟩] =
    [.drawn "create" "a", .drawn "create" "b", .literal "/it's"] := by decide

end ResolvedPath

end ApiScaffold
