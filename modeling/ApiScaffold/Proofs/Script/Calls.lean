import ApiScaffold.Proofs.Script.Ordinary

/-!
# Which lines call the libraries

A test calls the schema validator in the assertion on its body, and the load tester in its load
test. The rest of its lines are quiet (`Script.Quiet`): they call neither, whatever the values are
that stand in them. For the ordinary lines of a request this shows at their ends: no fixed text and no
frame starts as a call does, and no call ends in a comma (`Script.Ordinary.quiet`).
-/

namespace ApiScaffold.Script

/-! ### Kinds of lines -/

/-- **A kind of line**: how its lines start, after their spaces, and the character that they end
in. -/
structure LineKind where
  starts : List String
  last : Char
  deriving DecidableEq

namespace LineKind

/-- Whether a line is of a kind. -/
def Meets (kind : LineKind) (line : String) : Prop :=
  EndsIn kind.last line ∧ ∃ start ∈ kind.starts, OpensWith start line

instance {kind : LineKind} {line : String} : Decidable (kind.Meets line) :=
  inferInstanceAs (Decidable (EndsIn _ _ ∧ ∃ start ∈ kind.starts, start.toList <+: bare line))

/-- Whether some line is of a kind. -/
def In (kind : LineKind) (lines : Lines) : Prop := ∃ line ∈ lines, kind.Meets line

/-- **Calls of the validator**, in one of the assertion styles. -/
def validatorCall : LineKind where
  starts :=
    ["validator.validate(", "expect(validator.validate(", "assert.isTrue(validator.validate("]
  last := ';'

/-- **Calls of the load tester**: the object of its arguments starts in the same line. -/
def loadTesterCall : LineKind := ⟨["arete.loadTest("], '\x7b'⟩

/-- **Imports of the validator**: its library, and its instance. -/
def validatorImport : LineKind := ⟨["var ZSchema = ", "var validator = "], ';'⟩

/-- **Imports of the load tester.** -/
def loadTesterImport : LineKind := ⟨["var arete = "], ';'⟩

/-- The kinds of lines that have to do with a library. -/
def all : List LineKind := [validatorCall, loadTesterCall, validatorImport, loadTesterImport]

/-- Kinds are told by what stands after the indentation, so depth does not matter. -/
theorem meets_indented {kind : LineKind} (hkind : kind ∈ all) {depth : Nat} {s : String} :
    kind.Meets (indented depth s) ↔ kind.Meets s := by
  have hlast : ∀ kind ∈ all, kind.last ≠ ' ' := by decide
  simp only [Meets, opensWith_indented]
  rw [endsIn_indented (hlast kind hkind)]

/-- **No line is of two kinds**: their starts or their ends differ. So lines of a kind can be counted in
a script part by part. -/
theorem eq_of_meets {kind other : LineKind} (hkind : kind ∈ all) (hother : other ∈ all)
    {line : String} (h : kind.Meets line) (h' : other.Meets line) : kind = other := by
  have hapart : ∀ kind ∈ all, ∀ other ∈ all, kind = other ∨ kind.last ≠ other.last ∨
      ∀ start ∈ kind.starts, ∀ start' ∈ other.starts,
        ¬ start.toList <+: start'.toList ∧ ¬ start'.toList <+: start.toList := by decide
  obtain ⟨hends, start, hstart, hopens⟩ := h
  obtain ⟨hends', start', hstart', hopens'⟩ := h'
  rcases hapart kind hkind other hother with heq | hlast | hstarts
  · exact heq
  · exact absurd (Option.some.inj (hends.symm.trans hends')) hlast
  · obtain ⟨hn, hn'⟩ := hstarts start hstart start' hstart'
    rcases List.prefix_or_prefix_of_prefix hopens hopens' with hp | hp
    · exact absurd hp hn
    · exact absurd hp hn'

/-- A line of one kind is of no other. -/
theorem meets_iff_eq {kind other : LineKind} (hkind : kind ∈ all) (hother : other ∈ all)
    {line : String} (h : other.Meets line) : kind.Meets line ↔ kind = other :=
  ⟨fun h' => eq_of_meets hkind hother h' h, fun heq => heq ▸ h⟩

/-- A kind is in a text of two parts if it is in one of them. -/
theorem in_append {kind : LineKind} {lines more : Lines} :
    kind.In (lines ++ more) ↔ kind.In lines ∨ kind.In more := by
  simp only [In, List.mem_append, or_and_right, exists_or]

/-- In a single line it is if the line is of the kind. -/
theorem in_singleton {kind : LineKind} {line : String} : kind.In [line] ↔ kind.Meets line := by
  simp only [In, List.mem_singleton, exists_eq_left]

end LineKind

/-- **Quiet lines** have to do with no library. -/
def Quiet (line : String) : Prop := ∀ kind ∈ LineKind.all, ¬ kind.Meets line

/-- Quiet lines hold no line of a kind. -/
theorem not_in_of_quiet {lines : Lines} (h : ∀ line ∈ lines, Quiet line) {kind : LineKind}
    (hkind : kind ∈ LineKind.all) : ¬ kind.In lines := by
  rintro ⟨line, hline, hmeets⟩
  exact h line hline kind hkind hmeets

@[simp] theorem quiet_indented {depth : Nat} {s : String} : Quiet (indented depth s) ↔ Quiet s := by
  exact forall₂_congr fun kind hkind => not_congr (LineKind.meets_indented hkind)

/-- A line is quiet when no kind ends as it does. -/
theorem quiet_of_endsIn {line : String} {c : Char} (h : EndsIn c line)
    (hlast : ∀ kind ∈ LineKind.all, kind.last ≠ c) : Quiet line := by
  intro kind hkind hmeets
  exact hlast kind hkind (Option.some.inj (hmeets.1.symm.trans h))

/-- **Foreign texts**: no kind of line starts as they do, whatever follows them. -/
def Foreign (text : String) : Prop :=
  ∀ kind ∈ LineKind.all, ∀ start ∈ kind.starts,
    ¬ start.toList <+: bare text ∧ ¬ bare text <+: start.toList

/-- The characters that lines of the kinds start with. -/
def firstChars : List Char := ['v', 'e', 'a']

/-- A text with another first character is foreign. -/
theorem foreign_of_head {text : String} {c : Char} (h : (bare text).head? = some c)
    (hc : c ∉ firstChars) : Foreign text := by
  have hfirst : ∀ kind ∈ LineKind.all, ∀ start ∈ kind.starts,
      ∃ c ∈ firstChars, start.toList.head? = some c := by
    simp [LineKind.all, LineKind.validatorCall, LineKind.loadTesterCall, LineKind.validatorImport,
      LineKind.loadTesterImport, firstChars]
  intro kind hkind start hstart
  obtain ⟨c', hc', hstart⟩ := hfirst kind hkind start hstart
  obtain ⟨rest, hrest⟩ := List.head?_eq_some_iff.mp h
  obtain ⟨more, hmore⟩ := List.head?_eq_some_iff.mp hstart
  rw [hrest, hmore]
  constructor
  · intro hp
    exact hc ((List.cons_prefix_cons.mp hp).1 ▸ hc')
  · intro hp
    exact hc ((List.cons_prefix_cons.mp hp).1 ▸ hc')

/-- Most texts are told by their first character; the others are compared with each start. -/
instance {text : String} : Decidable (Foreign text) :=
  match h : (bare text).head? with
  | none => inferInstanceAs (Decidable (∀ kind ∈ LineKind.all, ∀ start ∈ kind.starts, _))
  | some c =>
    if hc : c ∈ firstChars then
      inferInstanceAs (Decidable (∀ kind ∈ LineKind.all, ∀ start ∈ kind.starts, _))
    else isTrue (foreign_of_head h hc)

/-- **Lines that begin like no kind** are quiet: a kind is told by its first character already. -/
theorem Foreign.quiet {line : String} (h : Foreign line) : Quiet line := by
  rintro kind hkind ⟨-, start, hstart, hopens⟩
  exact (h kind hkind start hstart).1 hopens

instance {line : String} : Decidable (Quiet line) :=
  if h : Foreign line then isTrue h.quiet
  else inferInstanceAs (Decidable (∀ kind ∈ LineKind.all, ¬ kind.Meets line))

/-- A line that starts with a foreign text is quiet, whatever value stands behind it. -/
@[simp] theorem quiet_append {text : String} (h : Foreign text) (rest : String) :
    Quiet (text ++ rest) := by
  -- no start is empty, so a foreign text is more than spaces
  have hne : bare text ≠ [] := by
    intro hnil
    exact (h _ (List.mem_cons_self ..) _ (List.mem_cons_self ..)).2 (hnil ▸ List.nil_prefix)
  have hbare : bare (text ++ rest) = bare text ++ rest.toList := by
    rw [bare, String.toList_append, List.dropWhile_append, if_neg (by simpa [bare] using hne), bare]
  rintro kind hkind ⟨-, start, hstart, hopens⟩
  rw [OpensWith, hbare] at hopens
  -- two starts of one line are prefixes of each other
  rcases List.prefix_or_prefix_of_prefix hopens (List.prefix_append _ _) with hp | hp
  · exact (h kind hkind start hstart).1 hp
  · exact (h kind hkind start hstart).2 hp

/-- **Ordinary lines are quiet**: a look at the fixed texts and at the starts of the frames is enough. -/
theorem Ordinary.quiet {line : String} (h : Ordinary line) : Quiet line := by
  have hfixed : ∀ text ∈ fixedTexts, Quiet text := by decide
  have hframes : ∀ frame ∈ frames, Foreign frame.1 := by decide
  induction h with
  | fixed h => exact hfixed _ h
  | field h => exact quiet_of_endsIn h (by decide)
  | framed start last h value =>
    rw [String.append_assoc]
    exact quiet_append (hframes _ h) _
  | deeper depth _ ih => exact quiet_indented.mpr ih

/-- Lines that are all ordinary are all quiet. -/
theorem quiet_of_ordinary {lines : Lines} (h : ∀ line ∈ lines, Ordinary line) :
    ∀ line ∈ lines, Quiet line := fun line hline => (h line hline).quiet

/-! ### Tests and steps -/

variable {kind : LineKind}

/-- Among quiet lines only the one in their middle can be of a kind. -/
theorem in_between {before after : Lines} (hbefore : ∀ line ∈ before, Quiet line)
    (hafter : ∀ line ∈ after, Quiet line) (hkind : kind ∈ LineKind.all) {line : String} :
    kind.In (before ++ [line] ++ after) ↔ kind.Meets line := by
  rw [LineKind.in_append, LineKind.in_append, LineKind.in_singleton]
  simp [not_in_of_quiet hbefore hkind, not_in_of_quiet hafter hkind]

/-- The check of a schema is a call of the validator, in every style. -/
theorem meets_followsSchema (hkind : kind ∈ LineKind.all) (style : AssertionStyle)
    (subject : String) : kind.Meets (style.followsSchema subject) ↔ kind = .validatorCall := by
  refine LineKind.meets_iff_eq hkind (by decide) ?_
  unfold AssertionStyle.followsSchema AssertionStyle.validatorCall
  cases style with
  | should =>
    refine ⟨(endsIn_append (by decide)).mpr rfl, "validator.validate(", by decide, ?_⟩
    simp [OpensWith, bare, String.append_assoc]
  | expect =>
    refine ⟨(endsIn_append (by decide)).mpr rfl, "expect(validator.validate(", by decide, ?_⟩
    simp [OpensWith, bare, String.append_assoc]
  | assert =>
    refine ⟨(endsIn_append (by decide)).mpr rfl, "assert.isTrue(validator.validate(", by decide, ?_⟩
    simp [OpensWith, bare, String.append_assoc]

/-- **The assertion on the body** calls the validator in validated cases, and is quiet in others. -/
theorem meets_bodyAssertion (hkind : kind ∈ LineKind.all) (t : TestCase) (style : AssertionStyle)
    (subject : String) :
    kind.Meets (t.bodyAssertion style subject) ↔
      kind = .validatorCall ∧ t.validates = true := by
  unfold TestCase.bodyAssertion
  cases t.validates with
  | true => simpa using meets_followsSchema hkind style subject
  | false =>
    -- the remark at the end of the line tells it from every call
    have hquiet : Quiet (style.equal subject "null" ++ " // non-json response or no schema") :=
      quiet_of_endsIn ((endsIn_append (by decide)).mpr (by decide : EndsIn 'a' _)) (by decide)
    simpa using hquiet kind hkind

/-- **A load test** calls the load tester, and nothing else. -/
theorem in_loadTestLines (hkind : kind ∈ LineKind.all) (l : LoadTest) {target : Lines}
    (htarget : ∀ line ∈ target, Quiet line) :
    kind.In (loadTestLines l target) ↔ kind = .loadTesterCall := by
  -- the call is the third line, and the lines of the request come after it
  have heq : ∃ before after,
      loadTestLines l target = before ++ [indented 6 "arete.loadTest(\x7b"] ++ after ∧
        (∀ line ∈ before, Quiet line) ∧ ∀ line ∈ after, Quiet line := by
    refine ⟨["", testLine 4 ("should sustain " ++ toString l.requests.toNat ++ " requests")],
      _, rfl, ?_, ?_⟩
    · simp +decide [testLine, String.append_assoc]
    · simp +decide [or_imp, forall_and, String.append_assoc]
      exact htarget
  obtain ⟨before, after, heq, hbefore, hafter⟩ := heq
  rw [heq, in_between hbefore hafter hkind, LineKind.meets_indented hkind]
  exact LineKind.meets_iff_eq hkind (by decide) (by decide)

/-- The last lines of a test, with its load test if it has one. -/
theorem in_optional_loadTestLines (hkind : kind ∈ LineKind.all) (t : TestCase) {target : Lines}
    (htarget : ∀ line ∈ target, Quiet line) {lines : Lines}
    (hlines : lines = (t.loadTest.map fun l => loadTestLines l target).getD []) :
    kind.In lines ↔ kind = .loadTesterCall ∧ t.loadTest.isSome = true := by
  rw [hlines]
  cases t.loadTest with
  | none => simp [LineKind.In]
  | some l => simpa using in_loadTestLines hkind l htarget

/-- **A test of `request`** calls the validator where its case validates, the load tester where there is
a load test, and is quiet everywhere else. -/
theorem Request.in_test (hkind : kind ∈ LineKind.all) (style : AssertionStyle) (t : TestCase) :
    kind.In (Request.test style t) ↔
      kind = .validatorCall ∧ t.validates = true ∨
        kind = .loadTesterCall ∧ t.loadTest.isSome = true := by
  have heq : ∃ load, Request.test style t =
      [testLine 4 (caseTitle t)] ++ Request.call 6 true t ++
        [indented 8 "if (error) return done(error);", "",
          indented 8 (t.statusAssertion style "res.statusCode"), ""] ++
        [indented 8 (t.bodyAssertion style "body")] ++
        [indented 8 "done();", indented 6 "\x7d);", indented 4 "\x7d);"] ++ load ∧
      load = (t.loadTest.map fun l => loadTestLines l (Request.loadTarget t)).getD [] := by
    refine ⟨_, ?_, rfl⟩
    rw [Request.test]
    cases t.loadTest <;> simp
  obtain ⟨load, heq, hload⟩ := heq
  rw [heq, LineKind.in_append, in_between ?_ ?_ hkind, LineKind.meets_indented hkind,
    meets_bodyAssertion hkind, in_optional_loadTestLines hkind t ?_ hload]
  · simp +decide [Request.loadTarget, String.append_assoc]
  · simp +decide [or_imp, forall_and, testLine, String.append_assoc]
    exact ⟨quiet_of_ordinary (ordinary_call 6 true t), (ordinary_statusAssertion t style).quiet⟩
  · decide

/-- **A test of `supertest`** makes the same calls under the same conditions, although its lines differ.
-/
theorem Supertest.in_test (hkind : kind ∈ LineKind.all) (style : AssertionStyle) (t : TestCase) :
    kind.In (Supertest.test style t) ↔
      kind = .validatorCall ∧ t.validates = true ∨
        kind = .loadTesterCall ∧ t.loadTest.isSome = true := by
  have heq : ∃ load, Supertest.test style t =
      [testLine 4 (caseTitle t)] ++ Supertest.request 6 t ++ Supertest.body 6 t ++
        linesIf (!t.isDefault) [indented 6 (Supertest.expectCall t)] ++
        [indented 6 ".end(function(err, res) \x7b", indented 8 "if (err) return done(err);"] ++
        linesIf t.isDefault ["", indented 8 (t.statusAssertion style "res.statusCode")] ++ [""] ++
        [indented 8 (t.bodyAssertion style "res.body")] ++
        [indented 8 "done();", indented 6 "\x7d);", indented 4 "\x7d);"] ++ load ∧
      load = (t.loadTest.map fun l => loadTestLines l
        [indented 10 (Supertest.requestCall t ++ ".end(callback);")]).getD [] := by
    refine ⟨_, ?_, rfl⟩
    rw [Supertest.test]
    cases t.loadTest <;> simp
  obtain ⟨load, heq, hload⟩ := heq
  rw [heq, LineKind.in_append, in_between ?_ ?_ hkind, LineKind.meets_indented hkind,
    meets_bodyAssertion hkind, in_optional_loadTestLines hkind t ?_ hload]
  · simp +decide [Supertest.requestCall, String.append_assoc]
  · simp +decide [or_imp, forall_and, testLine, Supertest.expectCall, String.append_assoc]
    exact ⟨quiet_of_ordinary (ordinary_request 6 t), quiet_of_ordinary (ordinary_body 6 t),
      fun _ => (ordinary_statusAssertion t style).quiet⟩
  · decide

end ApiScaffold.Script

namespace ApiScaffold.Renderer

open Script

variable {kind : LineKind}

/-- **What a test calls**, in both dialects: the validator in validated cases, and the load tester
for a load test. -/
theorem in_testLines (hkind : kind ∈ LineKind.all) (r : Renderer) (t : TestCase) :
    kind.In (r.testLines t) ↔
      kind = .validatorCall ∧ t.validates = true ∨
        kind = .loadTesterCall ∧ t.loadTest.isSome = true := by
  rw [testLines]
  cases r.testModule with
  | request => exact Request.in_test hkind r.style t
  | supertest => exact Supertest.in_test hkind r.style t

/-- **What a step's function calls**, in both dialects: the validator in validated cases. A load test of
a step is never run. -/
theorem in_stepLines (hkind : kind ∈ LineKind.all) (r : Renderer) (t : TestCase) :
    kind.In (r.stepLines t) ↔ kind = .validatorCall ∧ t.validates = true := by
  obtain ⟨before, heq, hbefore⟩ := r.exists_stepLines_eq t
  rw [heq, in_between (quiet_of_ordinary hbefore) (quiet_of_ordinary (ordinary_stepEnd _ t)) hkind,
    LineKind.meets_indented hkind, meets_bodyAssertion hkind]

end ApiScaffold.Renderer
