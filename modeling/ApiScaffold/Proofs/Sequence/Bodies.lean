import ApiScaffold.Proofs.Script.Ordinary
import ApiScaffold.Proofs.Sequence.Members

/-!
# Steps that demand an empty body

Each step of a sequence keeps the body of its response for later steps, and asserts something of it
before. Where the response has a schema the body has to follow it. Where it has none the body has to
be `null`, although a later step may read a field of it.

The assertion of an empty body ends in a remark, and no other line of a step ends in the letter that
the remark ends in, whatever the values are that stand in the lines: none of the fixed texts and frames
of ordinary lines does (`Script.Ordinary.unremarked`). So the function of a step holds the assertion
exactly if the step has no schema (`Renderer.demandsNoBody_iff`).
-/

namespace ApiScaffold

namespace Script

/-- **The assertion that there is no body**, with its remark. -/
def noBodyAssertion (m : TestModule) (style : AssertionStyle) : String :=
  style.equal (bodySubject m) "null" ++ " // non-json response or no schema"

/-- **Functions that demand an empty body** before they assign the response to a step. -/
def DemandsNoBody (m : TestModule) (style : AssertionStyle) (lines : Lines) (label : String) : Prop :=
  ∃ before between after, lines =
    before ++ [indented 10 (noBodyAssertion m style)] ++ between ++
      [indented 10 (assignment m label)] ++ after

/-! ### Lines without the remark -/

/-- **Plain lines** do not end as the remark does. -/
def Unremarked (line : String) : Prop := ¬ EndsIn 'a' line

instance {line : String} : Decidable (Unremarked line) := inferInstanceAs (Decidable (¬ _))

theorem unremarked_indented {depth : Nat} {s : String} :
    Unremarked (indented depth s) ↔ Unremarked s :=
  not_congr (endsIn_indented (by decide))

theorem unremarked_append {s t : String} (h : t.toList ≠ []) :
    Unremarked (s ++ t) ↔ Unremarked t :=
  not_congr (endsIn_append h)

theorem not_unremarked_noBodyAssertion (m : TestModule) (style : AssertionStyle) :
    ¬ Unremarked (indented 10 (noBodyAssertion m style)) := by
  rw [unremarked_indented, noBodyAssertion, unremarked_append (by decide)]
  decide

/-- **Ordinary lines have no remark**: the fixed texts and the frames end in another letter. -/
theorem Ordinary.unremarked {line : String} (h : Ordinary line) : Unremarked line := by
  have hfixed : ∀ text ∈ fixedTexts, Unremarked text := by decide
  have hframes : ∀ frame ∈ frames, frame.2.toList ≠ [] ∧ Unremarked frame.2 := by decide
  induction h with
  | fixed h => exact hfixed _ h
  | field h => exact fun hremark => absurd (h.symm.trans hremark) (by decide)
  | framed start last h value => exact (unremarked_append (hframes _ h).1).mpr (hframes _ h).2
  | deeper depth _ ih => exact unremarked_indented.mpr ih

/-- The check of a schema has no remark, in every style. -/
theorem unremarked_bodyAssertion (style : AssertionStyle) (subject : String) {t : TestCase}
    (h : t.validates = true) : Unremarked (t.bodyAssertion style subject) := by
  rw [TestCase.bodyAssertion, if_pos h]
  unfold AssertionStyle.followsSchema
  cases style <;> exact (unremarked_append (by decide)).mpr (by decide)

end Script

namespace Renderer

open Script

/-- **A step demands an empty body** exactly if it does not check the body against a schema. -/
theorem demandsNoBody_iff (m : TestModule) (style : AssertionStyle) {t : TestCase} {label : String}
    {deps : Dependencies} (hstep : t.step = some ⟨label, deps⟩) :
    DemandsNoBody m style ((plain m style).stepLines t) label ↔ t.validates = false := by
  obtain ⟨before, heq, hbefore⟩ := (plain m style).exists_stepLines_eq t
  constructor
  · rintro ⟨front, between, after, hlines⟩
    refine Bool.eq_false_iff.mpr ?_
    intro hvalidates
    -- the assertion would be a line with the remark, and there is none
    have hmem : indented 10 (noBodyAssertion m style) ∈ (plain m style).stepLines t := by
      rw [hlines]
      simp
    rw [heq, List.mem_append, List.mem_append, List.mem_singleton] at hmem
    refine not_unremarked_noBodyAssertion m style ?_
    obtain (hmem | hmem) | hmem := hmem
    · exact (hbefore _ hmem).unremarked
    · rw [hmem, unremarked_indented]
      exact unremarked_bodyAssertion _ _ hvalidates
    · exact (ordinary_stepEnd m t _ hmem).unremarked
  · intro hvalidates
    refine ⟨before, [""], [indented 10 "cb(null);", indented 8 "\x7d);"], ?_⟩
    have hkeep : keepLine 10 t (responseCode m) = indented 10 (assignment m label) := by
      rw [keepLine, hstep]
      rfl
    have hbody : t.bodyAssertion style (bodySubject m) = noBodyAssertion m style := by
      rw [TestCase.bodyAssertion, hvalidates]
      rfl
    rw [heq, plain, hbody, stepEnd, hkeep]
    simp

end Renderer

/-! ### Steps that others draw on -/

namespace SequenceBlock

variable {api : Description} {config : RunConfig} {name : String}

/-- **Schema of a step**: its operation declares the expected response, and the case of the step checks
the body exactly if that response has a schema. -/
theorem validates_of_stepCase {step : SequenceStep} {t : TestCase}
    (h : stepCase api config step = .ok t) :
    ∃ operation response, api.operation step.path step.operation = .ok operation ∧
      operation.responses.get? stepResponse = some response ∧
      (t.validates = false ↔ response.schema = none) := by
  obtain ⟨operation, ho, h⟩ := Built.bind_eq_ok.mp h
  obtain ⟨operation, response, hoperation, hresponse, hschema⟩ := TestCase.schema_of_build h
  refine ⟨operation, response, hoperation, hresponse, ?_⟩
  rw [validates_of_build h, TestCase.hasSchema, hschema, Option.isSome_eq_false_iff,
    Option.isNone_iff_eq_none]

/-- **A step that another draws on demands an empty body exactly if its response has no schema.** Take
any sequence that can be built, and a dependency in one of its cases. It goes to a strictly earlier
step, whose operation declares the expected response. In the file, in either dialect and every assertion
style, the function of that step stands before the one that reads the field, and it demands that there
is no body, before it keeps the body, if and only if the response is declared without a schema. -/
theorem demandsNoBody_of_build {steps : List SequenceStep} {block : SequenceBlock}
    (h : build api config name steps = .ok block) {i : Nat} {t : TestCase}
    (ht : block.steps[i]? = some t) {target label field : String}
    (he : (target, .dependency label field) ∈ t.expressions) :
    ∃ j < i, ∃ origin s operation response, steps[j]? = some origin ∧ origin.step = label ∧
      block.steps[j]? = some s ∧
      api.operation origin.path origin.operation = .ok operation ∧
      operation.responses.get? stepResponse = some response ∧
      ∀ m style, (Renderer.plain m style).Precedes block s t ∧
        (Script.DemandsNoBody m style ((Renderer.plain m style).stepLines s) label ↔
          response.schema = none) := by
  obtain ⟨hchained, hcases, -⟩ := build_eq_ok.mp h
  obtain ⟨step, hstep, hcase⟩ := Pairing.exists_left_of_getElem? hcases ht
  obtain ⟨-, hsource⟩ := firstSource_of_stepCase hcase he
  -- the source is a label of an earlier step, whose case stands at the same place
  obtain ⟨j, hj, origin, horigin, rfl⟩ :=
    (chained_iff.mp hchained).2 i step hstep label hsource.mem_names
  obtain ⟨s, hs, hscase⟩ := Pairing.exists_right_of_getElem? hcases horigin
  obtain ⟨operation, response, hoperation, hresponse, hschema⟩ := validates_of_stepCase hscase
  refine ⟨j, hj, origin, s, operation, response, horigin, rfl, hs, hoperation, hresponse, ?_⟩
  intro m style
  refine ⟨Renderer.plain_precedes m style hs ht hj, ?_⟩
  rw [Renderer.demandsNoBody_iff m style (step_of_stepCase hscase), hschema]

/-- Reading a pet back draws on the step that added it, and that step does not demand an empty body: its
response has a schema. -/
theorem demandsNoBody_of_build_petSteps :
    ∃ block s t, build .pets {} "pets" petSteps = .ok block ∧ block.steps[2]? = some t ∧
      ("id", .dependency "create" "id") ∈ t.expressions ∧ block.steps[0]? = some s ∧
      ∀ m style, (Renderer.plain m style).Precedes block s t ∧
        ¬ Script.DemandsNoBody m style ((Renderer.plain m style).stepLines s) "create" := by
  have hdrawn : (build .pets {} "pets" petSteps).map (·.steps.map (·.expressions)) =
      .ok [[], [], [("id", .dependency "create" "id")]] := by with_unfolding_all rfl
  obtain ⟨block, h, hdrawn⟩ := Built.map_eq_ok.mp hdrawn
  obtain ⟨t, ht, hexpressions⟩ : ∃ t, block.steps[2]? = some t ∧
      t.expressions = [("id", .dependency "create" "id")] := by
    rw [← Option.map_eq_some_iff, ← List.getElem?_map, hdrawn]
    rfl
  have he : ("id", .dependency "create" "id") ∈ t.expressions := by
    rw [hexpressions]
    exact List.mem_singleton.mpr rfl
  obtain ⟨j, hj, origin, s, operation, response, horigin, hlabel, hs, hoperation, hresponse, hbody⟩ :=
    demandsNoBody_of_build h ht he
  -- of the two steps before, the first has the label
  obtain rfl : j = 0 := by
    match j with
    | 0 => rfl
    | 1 =>
      obtain rfl := Option.some.inj horigin
      exact absurd hlabel (by decide)
  obtain rfl := Option.some.inj horigin
  obtain rfl := Except.ok.inj hoperation
  obtain rfl := Option.some.inj hresponse
  refine ⟨block, s, t, h, ht, he, hs, ?_⟩
  intro m style
  obtain ⟨hprecedes, hiff⟩ := hbody m style
  exact ⟨hprecedes, fun hdemands => by cases hiff.mp hdemands⟩

/-- A pet is read, and read again by the identifier that came with it. -/
def rereadSteps : List SequenceStep :=
  [⟨"read", "/pets/\x7bid\x7d", .get, []⟩,
    ⟨"again", "/pets/\x7bid\x7d", .get, [("read", ["id"])]⟩]

/-- **A step that has to have no body may be drawn on.** The sequence can be built, the second step reads
a field in the body of the first, and in either dialect and every assertion style the function of the
first step demands that there is none. -/
theorem exists_build_demandsNoBody :
    ∃ block s t, build .pets {} "pets" rereadSteps = .ok block ∧ block.steps = [s, t] ∧
      ("id", .dependency "read" "id") ∈ t.expressions ∧
      ∀ m style, (Renderer.plain m style).Precedes block s t ∧
        Script.DemandsNoBody m style ((Renderer.plain m style).stepLines s) "read" := by
  have hcases : (build .pets {} "pets" rereadSteps).map
      (·.steps.map fun t => (t.step, t.validates, t.expressions)) =
        .ok [(some ⟨"read", []⟩, false, [("id", .missing)]),
          (some ⟨"again", [("read", ["id"])]⟩, false, [("id", .dependency "read" "id")])] := by
    with_unfolding_all rfl
  obtain ⟨block, h, hcases⟩ := Built.map_eq_ok.mp hcases
  obtain ⟨s, rest, hsteps, hs, hrest⟩ := List.map_eq_cons_iff.mp hcases
  obtain ⟨t, more, rfl, ht, hmore⟩ := List.map_eq_cons_iff.mp hrest
  obtain rfl := List.map_eq_nil_iff.mp hmore
  simp only [Prod.mk.injEq] at hs ht
  obtain ⟨hstep, hvalidates, -⟩ := hs
  have he : ("id", .dependency "read" "id") ∈ t.expressions := by
    rw [ht.2.2]
    exact List.mem_singleton.mpr rfl
  refine ⟨block, s, t, h, hsteps, he, ?_⟩
  intro m style
  have hs : block.steps[0]? = some s := by rw [hsteps]; rfl
  have ht : block.steps[1]? = some t := by rw [hsteps]; rfl
  exact ⟨Renderer.plain_precedes m style hs ht Nat.zero_lt_one,
    (Renderer.demandsNoBody_iff m style hstep).mpr hvalidates⟩

end SequenceBlock

end ApiScaffold
