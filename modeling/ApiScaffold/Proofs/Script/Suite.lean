import ApiScaffold.Renderer

/-!
# Where the lines of a case stand

The script of a path is a head with the imports, and then the tests of its cases; the script of a
sequence is a head, and then a series of functions, one for each step in order. The lemmas here
place the lines of a case in the script of its block, for both dialects at once.
-/

namespace ApiScaffold

/-! ### The pieces of a script, by dialect -/

namespace Script

/-- What the assertion on the body of a step is about. -/
def bodySubject : TestModule → String
  | .request => "body"
  | .supertest => "res.body"

/-- What the function of a step takes the response from. -/
def responseCode : TestModule → String
  | .request => "typeof body === 'string' ? JSON.parse(body) : body"
  | .supertest => "res.body"

end Script

namespace Renderer

/-- A renderer without a custom set of templates. -/
def plain (m : TestModule) (style : AssertionStyle) : Renderer := { testModule := m, style }

/-- The lines of a test. -/
def testLines (r : Renderer) (t : TestCase) : Script.Lines :=
  match r.testModule with
  | .request => Script.Request.test r.style t
  | .supertest => Script.Supertest.test r.style t

/-- The lines of a step's function, without its last one. -/
def stepLines (r : Renderer) (t : TestCase) : Script.Lines :=
  match r.testModule with
  | .request => Script.Request.step r.style t
  | .supertest => Script.Supertest.step r.style t

/-- A test opens with its title. -/
theorem head?_testLines (r : Renderer) (t : TestCase) :
    (r.testLines t).head? = some (Script.testLine 4 (Script.caseTitle t)) := by
  rw [testLines]
  cases r.testModule <;> rfl

/-- The first lines of a path's file. -/
def pathHead (r : Renderer) (block : PathBlock) : Script.Lines :=
  match r.testModule with
  | .request => Script.Request.pathHead r.style block
  | .supertest => Script.Supertest.pathHead r.style block

/-- The first lines of a sequence's file. -/
def sequenceHead (r : Renderer) (block : SequenceBlock) : Script.Lines :=
  match r.testModule with
  | .request => Script.Request.sequenceHead r.style block
  | .supertest => Script.Supertest.sequenceHead r.style block

theorem pathScript_eq (r : Renderer) (block : PathBlock) :
    r.pathScript block = Script.pathSuite block (r.pathHead block) r.testLines := by
  unfold pathScript pathHead testLines
  cases r.testModule <;> rfl

theorem sequenceScript_eq (r : Renderer) (block : SequenceBlock) :
    r.sequenceScript block = Script.sequenceSuite block (r.sequenceHead block) r.stepLines := by
  unfold sequenceScript sequenceHead stepLines
  cases r.testModule <;> rfl

theorem render_plain_path (m : TestModule) (style : AssertionStyle) (block : PathBlock) :
    (plain m style).render (.path block) = .ok (Script.text ((plain m style).pathScript block)) :=
  rfl

theorem render_plain_sequence (m : TestModule) (style : AssertionStyle) (block : SequenceBlock) :
    (plain m style).render (.sequence block) =
      .ok (Script.text ((plain m style).sequenceScript block)) :=
  rfl

end Renderer

/-! ### Tests of a path -/

/-- The tests of a path are those of its operations. -/
theorem PathBlock.exists_mem_tests (block : PathBlock) {p : TestCase → Prop} :
    (∃ t ∈ block.tests, p t) ↔ ∃ o ∈ block.operations, ∃ t ∈ o.tests, p t := by
  constructor
  · rintro ⟨t, ht, h⟩
    obtain ⟨o, ho, ht⟩ := List.mem_flatMap.mp ht
    exact ⟨o, ho, t, ht, h⟩
  · rintro ⟨o, ho, t, ht, h⟩
    exact ⟨t, List.mem_flatMap.mpr ⟨o, ho, ht⟩, h⟩

namespace Script

/-- What one item gives stands somewhere in what all of them give. -/
theorem exists_flatMap_eq {α : Type} {f : α → Lines} {xs : List α} {x : α} (h : x ∈ xs) :
    ∃ before after, xs.flatMap f = before ++ f x ++ after := by
  obtain ⟨before, after, rfl⟩ := List.append_of_mem h
  exact ⟨before.flatMap f, after.flatMap f, by simp⟩

theorem exists_operationLines_eq (test : TestCase → Lines) {o : OperationBlock} {t : TestCase}
    (h : t ∈ o.tests) :
    ∃ before after, operationLines test o = before ++ test t ++ after := by
  obtain ⟨before, after, heq⟩ := exists_flatMap_eq (f := fun t => test t ++ [""]) h
  rw [operationLines, heq]
  exact ⟨_ ++ before, [""] ++ after ++ _, by simp only [List.append_assoc]; rfl⟩

/-- **Tests of a path** stand after the head of its script, so what the head sets up is there when a
test runs. -/
theorem exists_pathSuite_eq {block : PathBlock} (head : Lines) (test : TestCase → Lines)
    {t : TestCase} (h : t ∈ block.tests) :
    ∃ before after, pathSuite block head test = head ++ before ++ test t ++ after := by
  obtain ⟨o, ho, ht⟩ := List.mem_flatMap.mp h
  obtain ⟨before, after, heq⟩ := exists_flatMap_eq (f := operationLines test) ho
  obtain ⟨inner, outer, hlines⟩ := exists_operationLines_eq test ht
  rw [pathSuite, heq, hlines]
  exact ⟨_ ++ before ++ inner, outer ++ after ++ _, by simp only [List.append_assoc]; rfl⟩

/-! ### Functions of a series -/

/-- A series starts with the function of its first step; what follows that function is the series of
the others, or nothing. -/
theorem exists_seriesLines_cons (function : TestCase → Lines) (t : TestCase)
    (rest : List TestCase) :
    ∃ close, seriesLines function (t :: rest) =
      function t ++ close ++ seriesLines function rest := by
  cases rest with
  | nil => exact ⟨[indented 6 "\x7d"], by simp [seriesLines]⟩
  | cons next more => exact ⟨[indented 6 "\x7d,"], by simp [seriesLines]⟩

/-- The function of a step stands in the series. -/
theorem exists_seriesLines_eq (function : TestCase → Lines) {tests : List TestCase} {i : Nat}
    {t : TestCase} (h : tests[i]? = some t) :
    ∃ before after, seriesLines function tests = before ++ function t ++ after := by
  induction tests generalizing i with
  | nil => cases h
  | cons first rest ih =>
    obtain ⟨close, heq⟩ := exists_seriesLines_cons function first rest
    rw [heq]
    cases i with
    | zero =>
      obtain rfl := Option.some.inj h
      exact ⟨[], close ++ seriesLines function rest, by simp⟩
    | succ i =>
      obtain ⟨before, after, hrest⟩ := ih h
      exact ⟨function first ++ close ++ before, after, by rw [hrest]; simp⟩

/-- **Functions stand in the order of their steps.** -/
theorem exists_seriesLines_eq_of_lt (function : TestCase → Lines) {tests : List TestCase}
    {i j : Nat} {s t : TestCase} (hj : tests[j]? = some s) (hi : tests[i]? = some t)
    (h : j < i) :
    ∃ before between after, seriesLines function tests =
      before ++ function s ++ between ++ function t ++ after := by
  induction tests generalizing i j with
  | nil => cases hi
  | cons first rest ih =>
    obtain ⟨close, heq⟩ := exists_seriesLines_cons function first rest
    rw [heq]
    cases i with
    | zero => omega
    | succ i =>
      cases j with
      | zero =>
        obtain rfl := Option.some.inj hj
        have hi : rest[i]? = some t := hi
        obtain ⟨before, after, hrest⟩ := exists_seriesLines_eq function hi
        exact ⟨[], close ++ before, after, by rw [hrest]; simp⟩
      | succ j =>
        obtain ⟨before, between, after, hrest⟩ := ih hj hi (Nat.lt_of_succ_lt_succ h)
        exact ⟨function first ++ close ++ before, between, after, by rw [hrest]; simp⟩

/-- The series of a sequence's file stands between lines that do not depend on it. -/
theorem exists_sequenceSuite_frame (block : SequenceBlock) (head : Lines) :
    ∃ opening closing, ∀ function : TestCase → Lines, sequenceSuite block head function =
      head ++ opening ++ seriesLines function block.steps ++ closing :=
  ⟨_, _, fun _ => rfl⟩

/-- **Functions of a sequence** stand after the head of its script. -/
theorem exists_sequenceSuite_eq {block : SequenceBlock} (head : Lines)
    (function : TestCase → Lines) {t : TestCase} (h : t ∈ block.steps) :
    ∃ before after,
      sequenceSuite block head function = head ++ before ++ function t ++ after := by
  obtain ⟨i, hi⟩ := List.mem_iff_getElem?.mp h
  obtain ⟨opening, closing, hframe⟩ := exists_sequenceSuite_frame block head
  obtain ⟨before, after, heq⟩ := exists_seriesLines_eq function hi
  exact ⟨opening ++ before, after ++ closing, by rw [hframe, heq]; simp⟩

end Script

end ApiScaffold
