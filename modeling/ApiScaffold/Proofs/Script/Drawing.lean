import ApiScaffold.Proofs.Script.Suite
import ApiScaffold.Proofs.TestCase

/-!
# What a step's function reads and assigns

The functions of a series share the object `deps`. A function reads a field of an earlier response
as `deps.step.field`, which is how a dependency is written wherever it stands: in the path, in the
query or in the body. It assigns its own response to `deps.step` in its last lines.
-/

namespace ApiScaffold

/-! ### Texts inside lines -/

/-- Whether a text stands somewhere in a line. -/
def Script.Holds (line text : String) : Prop := ∃ before after, line = before ++ text ++ after

namespace Script

theorem Holds.refl (text : String) : Holds text text := ⟨"", "", by simp⟩

theorem Holds.append_left {line text : String} (h : Holds line text) (s : String) :
    Holds (s ++ line) text := by
  obtain ⟨before, after, rfl⟩ := h
  exact ⟨s ++ before, after, by simp only [String.append_assoc]⟩

theorem Holds.append_right {line text : String} (h : Holds line text) (s : String) :
    Holds (line ++ s) text := by
  obtain ⟨before, after, rfl⟩ := h
  exact ⟨before, after ++ s, by simp only [String.append_assoc]⟩

theorem Holds.indented {line text : String} (h : Holds line text) (depth : Nat) :
    Holds (indented depth line) text :=
  h.append_left _

/-- Joined texts hold each of them. -/
theorem holds_join (separator : String) {text : String} {texts : List String} (h : text ∈ texts) :
    Holds (Text.join separator texts) text := by
  induction texts with
  | nil => cases h
  | cons first rest ih =>
    cases rest with
    | nil =>
      rw [List.mem_singleton.mp h]
      exact .refl _
    | cons next more =>
      rw [Text.join]
      rcases List.mem_cons.mp h with rfl | h
      · exact ((Holds.refl _).append_right _).append_right _
      · exact (ih h).append_left _

end Script

namespace ResolvedPath

/-- A dependency is a part of its own in the concatenation, whatever text comes before it. -/
theorem dependency_mem_partsFrom {name step field : String} {segments : List PathSegment}
    (h : .placeholder name (.dependency step field) ∈ segments) (text : String) :
    (Expression.dependency step field).code ∈ partsFrom text segments := by
  induction segments generalizing text with
  | nil => cases h
  | cons segment rest ih =>
    rw [partsFrom]
    rcases List.mem_cons.mp h with rfl | h
    · exact List.mem_append_right _ (List.mem_cons_self ..)
    · cases segment.literalText? with
      | some t => exact ih h _
      | none => exact List.mem_append_right _ (List.mem_cons_of_mem _ (ih h _))

theorem dependency_mem_parts {name step field : String} {path : ResolvedPath}
    (h : .placeholder name (.dependency step field) ∈ path.segments) :
    (Expression.dependency step field).code ∈ path.parts := by
  have hmem := dependency_mem_partsFrom h ""
  rw [parts]
  cases hparts : partsFrom "" path.segments with
  | nil =>
    rw [hparts] at hmem
    cases hmem
  | cons first rest => rwa [hparts] at hmem

end ResolvedPath

namespace Script

/-! ### Reading -/

/-- **Reading** a field of an earlier response: some line holds its code. -/
def Reads (lines : Lines) (step field : String) : Prop :=
  ∃ line ∈ lines, Holds line ("deps." ++ step ++ "." ++ field)

/-- **Assigning** a response: some line sets it. -/
def Assigns (lines : Lines) (step : String) : Prop :=
  ∃ depth value, indented depth ("deps." ++ step ++ " = " ++ value ++ ";") ∈ lines

/-- Fields of a group stand two deeper than its first line. -/
theorem mem_group {depth : Nat} {first last f : String} {fields : List String} (h : f ∈ fields) :
    indented (depth + 2) f ∈ group depth first fields last := by
  have hne : fields.isEmpty = false := by
    cases fields with
    | nil => cases h
    | cons _ _ => rfl
  rw [group, hne, if_neg Bool.false_ne_true]
  exact List.mem_append_left _ (List.mem_append_right _ (List.mem_map_of_mem h))

theorem holds_valueFields {values : List ResolvedValue} {v : ResolvedValue} (h : v ∈ values) :
    ∃ f ∈ valueFields values, Holds f v.code :=
  ⟨_, List.mem_map_of_mem h, ((Holds.refl _).append_left _).append_right _⟩

/-- What a case sends is written into its lines: its path, its query and its body. -/
structure Sends (lines : Lines) (t : TestCase) : Prop where
  path : ∃ line ∈ lines, Holds line t.requestPath.code
  query : ∀ f ∈ queryFields t, ∃ depth, indented depth f ∈ lines
  body : ∀ f ∈ valueFields t.bodyValues, ∃ depth, indented depth f ∈ lines

/-- Lines that send a case read each dependency of it. -/
theorem Sends.reads {lines : Lines} {t : TestCase} (h : Sends lines t) {name step field : String}
    (he : (name, .dependency step field) ∈ t.expressions) : Reads lines step field := by
  rcases List.mem_append.mp he with he | he
  · obtain ⟨segment, hmem, hnamed⟩ := List.mem_filterMap.mp he
    cases segment with
    | text _ => cases hnamed
    | placeholder _ e =>
      obtain ⟨rfl, rfl⟩ := Prod.mk.inj (Option.some.inj hnamed)
      obtain ⟨line, hline, before, after, rfl⟩ := h.path
      have hcode := holds_join " + " (ResolvedPath.dependency_mem_parts hmem)
      exact ⟨_, hline, (hcode.append_left _).append_right _⟩
  -- values of the query and of the body stand in fields of their own
  · obtain ⟨v, hv, heq⟩ := List.mem_map.mp he
    obtain ⟨rfl, hexpression⟩ := Prod.mk.inj heq
    have hcode : v.code = (Expression.dependency step field).code := by
      rw [ResolvedValue.code, hexpression]
    rcases List.mem_append.mp hv with hv | hv
    · obtain ⟨f, hf, hholds⟩ := holds_valueFields hv
      obtain ⟨depth, hline⟩ := h.query f (List.mem_append_right _ hf)
      exact ⟨_, hline, (hcode ▸ hholds).indented _⟩
    · obtain ⟨f, hf, hholds⟩ := holds_valueFields hv
      obtain ⟨depth, hline⟩ := h.body f hf
      exact ⟨_, hline, (hcode ▸ hholds).indented _⟩

theorem Request.sends_options (depth : Nat) (withForm : Bool) (t : TestCase) :
    Sends (options depth withForm t) t where
  path :=
    ⟨indented depth ("url: " ++ t.requestPath.code ++ ","), by simp [options],
      (((Holds.refl _).append_left _).append_right _).indented _⟩
  query f hf := by
    have hgroup : indented (depth + 2) f ∈ group depth "qs: \x7b" (queryFields t) "\x7d," :=
      mem_group hf
    exact ⟨depth + 2, by simp [options, hgroup]⟩
  body f hf := by
    have hgroup :
        indented (depth + 2) f ∈ group depth "json: \x7b" (valueFields t.bodyValues) "\x7d," :=
      mem_group hf
    exact ⟨depth + 2, by simp [options, hgroup]⟩

theorem Supertest.sends_request_send (depth : Nat) (t : TestCase) :
    Sends (request depth t ++ group depth ".send(\x7b" (valueFields t.bodyValues) "\x7d)") t where
  path :=
    ⟨indented depth (requestCall t), by simp [request],
      (((Holds.refl _).append_left _).append_right _).indented _⟩
  query f hf := by
    have hgroup :
        indented (depth + 2) f ∈ group depth ".query(\x7b" (queryFields t) "\x7d)" :=
      mem_group hf
    exact ⟨depth + 2, by simp [request, hgroup]⟩
  body f hf := ⟨depth + 2, List.mem_append_right _ (mem_group hf)⟩

/-- More lines send what some of them send. -/
theorem Sends.mono {lines more : Lines} {t : TestCase} (h : Sends lines t) (hsub : lines ⊆ more) :
    Sends more t where
  path := by
    obtain ⟨line, hline, hholds⟩ := h.path
    exact ⟨line, hsub hline, hholds⟩
  query f hf := by
    obtain ⟨depth, hline⟩ := h.query f hf
    exact ⟨depth, hsub hline⟩
  body f hf := by
    obtain ⟨depth, hline⟩ := h.body f hf
    exact ⟨depth, hsub hline⟩

end Script

namespace Renderer

open Script

/-- **A step's function sends its case**, in both dialects: its path, its query and its body values all
stand in some line. -/
theorem sends_stepLines (r : Renderer) (t : TestCase) : Sends (r.stepLines t) t := by
  rw [stepLines]
  cases r.testModule with
  | request =>
    refine (Request.sends_options 10 false t).mono fun line hline => ?_
    simp [Request.step, Request.call, hline]
  | supertest =>
    refine (Supertest.sends_request_send 8 t).mono fun line hline => ?_
    rw [List.mem_append] at hline
    rcases hline with hline | hline <;> simp [Supertest.step, hline]

/-- **A step's function assigns its response** under the label of its step, which is where later steps
look for it. -/
theorem assigns_stepLines (r : Renderer) {t : TestCase} {label : String} {deps : Dependencies}
    (h : t.step = some ⟨label, deps⟩) : Assigns (r.stepLines t) label := by
  rw [stepLines]
  cases r.testModule with
  | request =>
    refine ⟨10, "typeof body === 'string' ? JSON.parse(body) : body", ?_⟩
    simp [Request.step, keepLine, h]
  | supertest =>
    refine ⟨10, "res.body", ?_⟩
    simp [Supertest.step, keepLine, h]

/-- **Order of functions**: in the file of a sequence, the function of one case stands before that
of another. -/
def Precedes (r : Renderer) (block : SequenceBlock) (s t : TestCase) : Prop :=
  ∃ before between after, r.render (.sequence block) =
    .ok (text (before ++ r.stepLines s ++ between ++ r.stepLines t ++ after))

/-- The functions of a file stand in the order of the steps. -/
theorem plain_precedes (m : TestModule) (style : AssertionStyle) {block : SequenceBlock}
    {i j : Nat} {s t : TestCase} (hj : block.steps[j]? = some s) (hi : block.steps[i]? = some t)
    (h : j < i) : (plain m style).Precedes block s t := by
  obtain ⟨opening, closing, hframe⟩ :=
    exists_sequenceSuite_frame block ((plain m style).sequenceHead block)
  obtain ⟨before, between, after, heq⟩ :=
    exists_seriesLines_eq_of_lt (plain m style).stepLines hj hi h
  refine ⟨(plain m style).sequenceHead block ++ opening ++ before, between, after ++ closing, ?_⟩
  rw [render_plain_sequence, sequenceScript_eq, hframe, heq]
  simp only [List.append_assoc]

end Renderer

end ApiScaffold
