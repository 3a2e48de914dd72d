import ApiScaffold.Build.Path
import ApiScaffold.Build.Sequence
import ApiScaffold.Proofs.Script.Drawing

/-!
# What a request carries

A case declares credentials, parameters and values, and each of them has a place in its request: the
query, the headers, the form or the body. A dialect writes a place as a group of fields, or as calls
of their own. The scripts of paths and of sequences put a request together from the same places but
do not write all of them: a `supertest` test that sends a form sends no body values, and steps
send no form. Everything else that a case declares stands in its request.
-/

namespace ApiScaffold

/-! ### Places -/

/-- **A place** of a request. -/
inductive Place where
  | query
  | header
  | form
  | body
  deriving DecidableEq, Repr

/-- The lines around the fields of a place. -/
structure Frame where
  /-- The call before the first line, if there is one. -/
  lead : List String := []
  first : String
  last : String

namespace TestModule

/-- **Frame of a place** in a dialect; headers of `supertest` have none, each is a call. -/
def frame? : TestModule → Place → Option Frame
  | .request, .query => some { first := "qs: \x7b", last := "\x7d," }
  | .request, .header => some { first := "headers: \x7b", last := "\x7d," }
  | .request, .form => some { first := "form: \x7b", last := "\x7d," }
  | .request, .body => some { first := "json: \x7b", last := "\x7d," }
  | .supertest, .query => some { first := ".query(\x7b", last := "\x7d)" }
  | .supertest, .header => none
  | .supertest, .form => some { lead := [".type('form')"], first := ".send(\x7b", last := "\x7d)" }
  | .supertest, .body => some { first := ".send(\x7b", last := "\x7d)" }

/-- The text that gives a header its value. -/
def headerText : TestModule → String → String → String
  | .request => Script.field
  | .supertest => Script.Supertest.setCall

/-- The text that gives the `Authorization` header its value; as a field it has a bare name. -/
def authorizationText (m : TestModule) (code : String) : String :=
  match m with
  | .request => "Authorization: " ++ code ++ ","
  | .supertest => Script.Supertest.setCall "Authorization" code

/-- The texts in a place of a request, in the order of its lines. -/
def placeTexts (m : TestModule) (t : TestCase) : Place → List String
  | .query => Script.queryFields t
  | .header =>
    match m with
    | .request => Script.Request.headerFields t
    | .supertest => Script.Supertest.headerCalls t
  | .form => Script.formFields t
  | .body => Script.valueFields t.bodyValues

end TestModule

/-- **What a case declares**: its place in a request, and the text that names it there, with the code
of its value. -/
inductive TestCase.Declares (m : TestModule) (t : TestCase) : Place → String → Prop where
  | queryKey {k : KeyCredential} (h : t.credentials.queryKey = some k) :
      Declares m t .query (k.key ++ ": " ++ Script.variableCode k.variableName ++ ",")
  | queryValue {v : ResolvedValue} (h : v ∈ t.queryValues) :
      Declares m t .query (Script.field v.name v.code)
  | authorization {s : HeaderSecurity} (h : t.credentials.authorization = some s) :
      Declares m t .header (m.authorizationText (Script.authorizationCode s))
  | headerKey {k : KeyCredential} (h : t.credentials.headerKey = some k) :
      Declares m t .header (m.headerText k.key (Script.variableCode k.variableName))
  | headerParameter {p : Parameter} (h : p ∈ t.parameters.header) :
      Declares m t .header (m.headerText p.name Expression.missingCode)
  | formParameter {p : Parameter} (h : p ∈ t.parameters.formData) :
      Declares m t .form (Script.openField p.name)
  | bodyValue {v : ResolvedValue} (h : v ∈ t.bodyValues) :
      Declares m t .body (Script.field v.name v.code)

/-- What a case declares is one of the texts of its place. -/
theorem TestCase.Declares.mem_placeTexts {m : TestModule} {t : TestCase} {place : Place}
    {text : String} (h : t.Declares m place text) : text ∈ m.placeTexts t place := by
  -- one case for each thing a case can declare; the two dialects order headers differently
  cases h with
  | @queryKey k h =>
    have hmem : k.key ++ ": " ++ Script.variableCode k.variableName ++ "," ∈
        Script.queryKeyFields t.credentials := by
      rw [Script.queryKeyFields, h]
      exact List.mem_singleton_self _
    exact List.mem_append_left _ hmem
  | queryValue h => exact List.mem_append_right _ (List.mem_map_of_mem h)
  | authorization h =>
    cases m with
    | request =>
      refine List.mem_append_left _ (List.mem_append_left _ (List.mem_append_right _ ?_))
      rw [h]
      exact List.mem_singleton_self _
    | supertest =>
      refine List.mem_append_left _ (List.mem_append_left _ (List.mem_append_left _ ?_))
      rw [h]
      exact List.mem_singleton_self _
  | headerKey h =>
    cases m with
    | request =>
      refine List.mem_append_left _ (List.mem_append_right _ ?_)
      rw [h]
      exact List.mem_singleton_self _
    | supertest =>
      refine List.mem_append_left _ (List.mem_append_left _ (List.mem_append_right _ ?_))
      rw [h]
      exact List.mem_singleton_self _
  | headerParameter h =>
    have hmem (f : Parameter → String) := List.mem_map_of_mem (f := f) h
    cases m with
    | request => exact List.mem_append_right _ (hmem _)
    | supertest => exact List.mem_append_left _ (List.mem_append_right _ (hmem _))
  | formParameter h => exact List.mem_map_of_mem h
  | bodyValue h => exact List.mem_map_of_mem h

/-! ### Places of a request -/

namespace Script

/-- **A request carries a text** in a place: between the first and the last line of the place's
frame, or as a call where the place has no frame. -/
inductive Carries (m : TestModule) (lines : Lines) (place : Place) (text : String) : Prop where
  | field (depth : Nat) {frame : Frame} {fields : List String} (hframe : m.frame? place = some frame)
      (hmem : text ∈ fields)
      (h : frame.lead.map (indented depth) ++ group depth frame.first fields frame.last <:+: lines)
  | call (depth : Nat) (hframe : m.frame? place = none) (h : indented depth text ∈ lines)

namespace Carries

variable {m : TestModule} {lines more : Lines} {place : Place} {text : String}

/-- What lines carry is carried by all lines that they stand in. -/
theorem mono (h : Carries m lines place text) (hin : lines <:+: more) :
    Carries m more place text := by
  cases h with
  | field depth hframe hmem h => exact .field depth hframe hmem (h.trans hin)
  | call depth hframe h => exact .call depth hframe (List.IsInfix.subset hin h)

end Carries

/-! ### Calls of `request` -/

namespace Request

/-- Options carry every text of every place, if only they are written with the form. -/
theorem carries_options (depth : Nat) {withForm : Bool} {t : TestCase} {place : Place}
    {text : String} (h : text ∈ TestModule.request.placeTexts t place)
    (hform : place = .form → withForm = true) :
    Carries .request (options depth withForm t) place text := by
  -- each group is reached through what stands after it
  cases place with
  | query =>
    refine .field depth rfl h ?_
    exact List.infix_append_of_infix_left <| List.infix_append_of_infix_left <|
      List.infix_append_of_infix_left <| List.infix_append_of_infix_left <|
      List.infix_append_of_infix_right List.infix_rfl
  | header =>
    refine .field depth rfl h ?_
    exact List.infix_append_of_infix_left <| List.infix_append_of_infix_left <|
      List.infix_append_of_infix_right List.infix_rfl
  | form =>
    obtain rfl := hform rfl
    refine .field depth rfl h ?_
    exact List.infix_append_of_infix_left <| List.infix_append_of_infix_right List.infix_rfl
  | body =>
    refine .field depth rfl h ?_
    exact List.infix_append_of_infix_right List.infix_rfl

/-- The options of a call stand in it as they are. What a request carries is looked up in them, so this
lemma and the two after it take such a find to the whole test or step. -/
theorem options_infix_call (depth : Nat) (withForm : Bool) (t : TestCase) :
    options (depth + 2) withForm t <:+: call depth withForm t :=
  List.infix_append _ _ _

/-- A test of `request` makes its call with a form. -/
theorem call_infix_test (style : AssertionStyle) (t : TestCase) :
    call 6 true t <:+: test style t := by
  rw [test]
  exact List.infix_append_of_infix_left (List.infix_append _ _ _)

/-- A step of `request` makes its call without one, so a form that a step declares is left out. -/
theorem call_infix_step (style : AssertionStyle) (t : TestCase) :
    call 8 false t <:+: step style t := by
  rw [step]
  exact List.infix_append_of_infix_left (List.infix_append _ _ _)

end Request

/-! ### Calls of `supertest` -/

namespace Supertest

/-- The call with its query and headers carries every text of these places. -/
theorem carries_request (depth : Nat) {t : TestCase} {place : Place} {text : String}
    (h : text ∈ TestModule.supertest.placeTexts t place)
    (hplace : place = .query ∨ place = .header) :
    Carries .supertest (request depth t) place text := by
  rcases hplace with rfl | rfl
  · refine .field depth rfl h ?_
    exact List.infix_append_of_infix_left (List.infix_append_of_infix_right List.infix_rfl)
  · exact .call depth rfl (List.mem_append_right _ (List.mem_map_of_mem h))

/-- The calls that send a form. -/
def formLines (depth : Nat) (t : TestCase) : Lines :=
  [indented depth ".type('form')"] ++ group depth ".send(\x7b" (formFields t) "\x7d)"

/-- A form is the whole body of a test. -/
theorem body_of_form (depth : Nat) {t : TestCase} (h : t.parameters.formData ≠ []) :
    body depth t = formLines depth t := by
  rw [body, if_pos (by simpa using h), formLines]

/-- A test's body carries the form. -/
theorem carries_body_form (depth : Nat) {t : TestCase} {text : String}
    (h : text ∈ TestModule.supertest.placeTexts t .form) :
    Carries .supertest (body depth t) .form text := by
  have hform : t.parameters.formData ≠ [] := by
    obtain ⟨p, hp, -⟩ := List.mem_map.mp h
    exact List.ne_nil_of_mem hp
  refine .field depth rfl h ?_
  rw [body_of_form depth hform]
  exact List.infix_rfl

/-- A test's body carries the body values where there is no form. -/
theorem carries_body_values (depth : Nat) {t : TestCase} {text : String}
    (h : text ∈ TestModule.supertest.placeTexts t .body) (hform : t.parameters.formData = []) :
    Carries .supertest (body depth t) .body text := by
  have hvalues : (!t.bodyValues.isEmpty) = true := by
    obtain ⟨v, hv, -⟩ := List.mem_map.mp h
    simp [List.ne_nil_of_mem hv]
  refine .field depth rfl h ?_
  rw [body, hform, if_neg (by simp), if_pos hvalues]
  exact List.infix_append_of_infix_right List.infix_rfl

/-- A test of `supertest` sends its body right behind its request, so both are looked at together. -/
theorem request_body_infix_test (style : AssertionStyle) (t : TestCase) :
    request 6 t ++ body 6 t <:+: test style t := by
  refine ⟨[testLine 4 (caseTitle t)], ?_⟩
  simp only [test, List.append_assoc]
  exact ⟨_, rfl⟩

/-- A step of `supertest` sends its values behind its request, and never a form. -/
theorem request_send_infix_step (style : AssertionStyle) (t : TestCase) :
    request 8 t ++ group 8 ".send(\x7b" (valueFields t.bodyValues) "\x7d)" <:+: step style t := by
  refine ⟨[indented 6 "function(cb) \x7b"], ?_⟩
  simp only [step, List.append_assoc]
  exact ⟨_, rfl⟩

end Supertest

end Script

/-! ### Requests of a block -/

namespace TestModule

open Script

/-- **Request of a test**: its call with everything that it sends, after the schema. -/
def testRequest (m : TestModule) (t : TestCase) : Lines :=
  match m with
  | .request => Request.call 6 true t
  | .supertest => Supertest.request 6 t ++ Supertest.body 6 t

/-- **Request of a step**, which has no form. -/
def stepRequest (m : TestModule) (t : TestCase) : Lines :=
  match m with
  | .request => Request.call 8 false t
  | .supertest =>
    Supertest.request 8 t ++ group 8 ".send(\x7b" (valueFields t.bodyValues) "\x7d)"

/-- **A test's request carries what its case declares**, except for the body values that a form of
`supertest` displaces. -/
theorem carries_testRequest {m : TestModule} {t : TestCase} {place : Place} {text : String}
    (h : t.Declares m place text)
    (hbody : m = .supertest → place = .body → t.parameters.formData = []) :
    Carries m (m.testRequest t) place text := by
  have hmem := h.mem_placeTexts
  cases m with
  | request =>
    exact (Request.carries_options 8 hmem fun _ => rfl).mono (Request.options_infix_call 6 true t)
  | supertest =>
    cases place with
    | query =>
      exact (Supertest.carries_request 6 hmem (.inl rfl)).mono List.infix_append_left
    | header =>
      exact (Supertest.carries_request 6 hmem (.inr rfl)).mono List.infix_append_left
    | form => exact (Supertest.carries_body_form 6 hmem).mono List.infix_append_right
    | body =>
      exact (Supertest.carries_body_values 6 hmem (hbody rfl rfl)).mono List.infix_append_right

/-- **A step's request carries what its case declares**, except for a form. The exception is in the form
of the call itself, in both dialects. -/
theorem carries_stepRequest {m : TestModule} {t : TestCase} {place : Place} {text : String}
    (h : t.Declares m place text) (hform : place ≠ .form) :
    Carries m (m.stepRequest t) place text := by
  have hmem := h.mem_placeTexts
  cases m with
  | request =>
    exact (Request.carries_options 10 hmem fun heq => absurd heq hform).mono
      (Request.options_infix_call 8 false t)
  | supertest =>
    cases place with
    | query =>
      exact (Supertest.carries_request 8 hmem (.inl rfl)).mono List.infix_append_left
    | header =>
      exact (Supertest.carries_request 8 hmem (.inr rfl)).mono List.infix_append_left
    | form => exact absurd rfl hform
    | body => exact .field 8 rfl hmem List.infix_append_right

end TestModule

namespace Renderer

open Script

/-- The request of a test stands in the lines that the renderer gives for it, whichever dialect it
writes. -/
theorem testRequest_infix_testLines (m : TestModule) (style : AssertionStyle) (t : TestCase) :
    m.testRequest t <:+: (plain m style).testLines t := by
  cases m with
  | request => exact Request.call_infix_test style t
  | supertest => exact Supertest.request_body_infix_test style t

theorem stepRequest_infix_stepLines (m : TestModule) (style : AssertionStyle) (t : TestCase) :
    m.stepRequest t <:+: (plain m style).stepLines t := by
  cases m with
  | request => exact Request.call_infix_step style t
  | supertest => exact Supertest.request_send_infix_step style t

/-- The lines of a test stand in the script of every path that has it. -/
theorem testLines_infix_pathScript (r : Renderer) {block : PathBlock} {t : TestCase}
    (h : t ∈ block.tests) : r.testLines t <:+: r.pathScript block := by
  obtain ⟨before, after, heq⟩ := exists_pathSuite_eq (r.pathHead block) r.testLines h
  rw [pathScript_eq, heq]
  exact List.infix_append _ _ _

theorem stepLines_infix_sequenceScript (r : Renderer) {block : SequenceBlock} {t : TestCase}
    (h : t ∈ block.steps) : r.stepLines t <:+: r.sequenceScript block := by
  obtain ⟨before, after, heq⟩ := exists_sequenceSuite_eq (r.sequenceHead block) r.stepLines h
  rw [sequenceScript_eq, heq]
  exact List.infix_append _ _ _

/-- **What a case declares stands in its request.** In the script of every block, the request of each
case carries its credentials, headers, query values and body values, and in tests of a path its form.
Where a `supertest` test sends a form, the form takes the place of the body values. -/
theorem render_carries (m : TestModule) (style : AssertionStyle) :
    (∀ block : PathBlock, ∃ script : Lines,
      (plain m style).render (.path block) = .ok (text script) ∧
        ∀ t ∈ block.tests, m.testRequest t <:+: script ∧
          (∀ place text, t.Declares m place text →
            (m = .supertest → place = .body → t.parameters.formData = []) →
              Carries m (m.testRequest t) place text) ∧
          (m = .supertest → t.parameters.formData ≠ [] →
            m.testRequest t = Supertest.request 6 t ++ Supertest.formLines 6 t)) ∧
    (∀ block : SequenceBlock, ∃ script : Lines,
      (plain m style).render (.sequence block) = .ok (text script) ∧
        ∀ t ∈ block.steps, m.stepRequest t <:+: script ∧
          ∀ place text, t.Declares m place text → place ≠ .form →
            Carries m (m.stepRequest t) place text) := by
  constructor
  · intro block
    refine ⟨_, render_plain_path m style block, fun t ht => ⟨?_, ?_, ?_⟩⟩
    · exact (testRequest_infix_testLines m style t).trans (testLines_infix_pathScript _ ht)
    · exact fun place text h hbody => TestModule.carries_testRequest h hbody
    · rintro rfl hform
      rw [TestModule.testRequest, Supertest.body_of_form 6 hform]
  · intro block
    refine ⟨_, render_plain_sequence m style block, fun t ht => ⟨?_, fun place text h hform => ?_⟩⟩
    · exact (stepRequest_infix_stepLines m style t).trans (stepLines_infix_sequenceScript _ ht)
    · exact TestModule.carries_stepRequest h hform

end Renderer

/-! ### What is left out -/

namespace Script

/-- A line holds a text exactly if its characters stand in it one after the other. -/
theorem holds_iff {line text : String} : Holds line text ↔ text.toList <:+: line.toList := by
  constructor
  · rintro ⟨before, after, rfl⟩
    exact ⟨before.toList, after.toList, by simp⟩
  · rintro ⟨before, after, heq⟩
    refine ⟨String.ofList before, String.ofList after, ?_⟩
    rw [← String.toList_inj, ← heq]
    simp

instance (line text : String) : Decidable (Holds line text) :=
  @decidable_of_iff _ _ holds_iff.symm
    (List.instDecidableIsInfixOfDecidableEq text.toList line.toList)

end Script

/-- **Body values and forms that are left out.** For an operation that takes a form and a body, a
`supertest` test sends the form and nowhere names the body value, and a step of a sequence nowhere
names the field of the form. -/
theorem exists_build_not_holds :
    let photo : Parameter := { name := "photo", location := .formData }
    let nickname : Parameter := { name := "nickname", location := .body }
    let operation : Operation :=
      { parameters := [.inline photo, .inline nickname], responses := [("200", {})] }
    let api : Description := { paths := [("/pets", { operations := [(.post, operation)] })] }
    (∃ block, PathBlock.build api {} "/pets" = .ok (some block) ∧
      ∃ t ∈ block.tests, (∃ v ∈ t.bodyValues, v.name = "nickname") ∧
        ∀ line ∈ TestModule.supertest.testRequest t, ¬ Script.Holds line "nickname") ∧
    ∀ m : TestModule, ∃ block,
      SequenceBlock.build api { testModule := m } "upload" [⟨"add", "/pets", .post, []⟩] =
        .ok block ∧
      ∃ t ∈ block.steps, photo ∈ t.parameters.formData ∧
        ∀ line ∈ m.stepRequest t, ¬ Script.Holds line "photo" := by
  intro photo nickname operation api
  refine ⟨⟨_, rfl, _, List.mem_singleton_self _, ⟨_, List.mem_singleton_self _, rfl⟩, ?_⟩,
    fun m => ?_⟩
  · decide +kernel
  · cases m with
    | request =>
      refine ⟨_, rfl, _, List.mem_singleton_self _, List.mem_singleton_self _, ?_⟩
      decide +kernel
    | supertest =>
      refine ⟨_, rfl, _, List.mem_singleton_self _, List.mem_singleton_self _, ?_⟩
      decide +kernel

end ApiScaffold
