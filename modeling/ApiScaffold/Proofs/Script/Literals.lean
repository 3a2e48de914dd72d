import ApiScaffold.Build.Path
import ApiScaffold.Proofs.Literal.Reader
import ApiScaffold.Proofs.Script.Drawing

/-!
# Texts between single quotes

The scripts put paths, names, types and keys between single quotes as they are. A *slot* is such a
place: the text, with what the script itself writes around it inside and outside the quotes. The slots
of a case, a path and a sequence are listed in the order of the script, and `Script.Quotes` follows the
script's own structure to show that each of them is a line of it. Whether a slot is read as the text
that it was given depends on that text alone: it has to be plain.
-/

namespace ApiScaffold

/-! ### Slots -/

/-- **A slot** of a script: a text between single quotes, in a line of its own. Everything but `value` is
the script's own. -/
structure Slot where
  /-- The line before its opening quote. -/
  opening : String := ""
  lead : String := ""
  value : String
  trail : String := ""
  /-- The line after its closing quote. -/
  closing : String := ""
  lead_plain : Literal.IsPlain lead.toList := by decide
  trail_plain : Literal.IsPlain trail.toList := by decide

namespace Slot

/-- A slot with only its text between the quotes. -/
def between (opening value closing : String) : Slot := { opening, value, closing }

/-- The slot of a field's name. -/
def field (name code : String) : Slot := between "" name (": " ++ code ++ ",")

/-- The slot of a header's name in a call. -/
def setCall (name code : String) : Slot := between ".set(" name (", " ++ code ++ ")")

/-- All that stands between the quotes. -/
def content (slot : Slot) : String := slot.lead ++ slot.value ++ slot.trail

/-- The line of a slot. -/
def text (slot : Slot) : String := slot.opening ++ Script.singleQuoted slot.content ++ slot.closing

/-- What is put between two texts stands there as it was given: nothing between the quotes is escaped.
-/
theorem text_between (opening value closing : String) :
    (between opening value closing).text = opening ++ Script.singleQuoted value ++ closing := by
  simp [text, content, between]

/-- The line of an object's field is the text of its slot, with the name as the content. -/
theorem text_field (name code : String) : (field name code).text = Script.field name code := by
  simp [field, text_between, Script.field, String.append_assoc]

/-- So is the line of a call that sets a header. -/
theorem text_setCall (name code : String) :
    (setCall name code).text = Script.Supertest.setCall name code := by
  simp [setCall, text_between, Script.Supertest.setCall, String.append_assoc]

/-- **A slot is read back** before a text: the literal that its opening quote starts ends at its closing
quote and stands for its content. -/
def Closes (slot : Slot) (after : String) : Prop :=
  Literal.read? (slot.content ++ "'" ++ slot.closing ++ after).toList =
    some (Literal.units slot.content.toList, (slot.closing ++ after).toList)

/-- A slot is read back exactly if its text is plain. -/
theorem closes_iff (slot : Slot) (after : String) :
    slot.Closes after ↔ Literal.IsPlain slot.value.toList := by
  have htext : (slot.content ++ "'" ++ slot.closing ++ after).toList =
      slot.content.toList ++ '\'' :: (slot.closing ++ after).toList := by
    simp
  rw [Closes, htext, Literal.read?_append_quote_iff, content, String.toList_append,
    String.toList_append, Literal.isPlain_append, Literal.isPlain_append]
  exact ⟨fun h => h.1.2, fun h => ⟨⟨slot.lead_plain, h⟩, slot.trail_plain⟩⟩

end Slot

namespace Script

/-! ### Slots of a case -/

/-- The names of values. -/
def valueSlots (values : List ResolvedValue) : List Slot := values.map fun v => .field v.name v.code

/-- The names of a form's fields. -/
def formSlots (t : TestCase) : List Slot :=
  t.parameters.formData.map fun p => .field p.name Expression.missingCode

/-- The names of the declared headers and of the one that carries a key; `slot` is the slot of a header
with its value. -/
def headerSlots (slot : String → String → Slot) (t : TestCase) : List Slot :=
  (match t.credentials.headerKey with
    | some k => [slot k.key (variableCode k.variableName)]
    | none => []) ++
    t.parameters.header.map fun p => slot p.name Expression.missingCode

/-- The name of a load test. -/
def loadTestSlots (t : TestCase) : List Slot :=
  match t.loadTest with
  | some l => [.between "name: " l.name ","]
  | none => []

/-- The message of a step that ends with an error. -/
def stepErrorSlot (t : TestCase) : Slot where
  lead := " | erroneous step - "
  value := t.path
  trail := " " ++ t.method.verb
  closing := "));"
  trail_plain := by cases t.method <;> decide

/-- The title of a path's tests. -/
def pathSlot (block : PathBlock) : Slot := .between "describe(" block.path ", function() \x7b"

/-- The title of a sequence's test. -/
def nameSlot (block : SequenceBlock) : Slot where
  opening := "describe("
  value := block.name
  trail := " sequence test"
  closing := ", function() \x7b"

/-- The slots of the call of a case. -/
def Request.slots (withForm : Bool) (t : TestCase) : List Slot :=
  valueSlots t.queryValues ++
    ([.between (singleQuoted "Content-Type" ++ ": ") t.contentType ","] ++ headerSlots .field t) ++
    (if withForm then formSlots t else []) ++ valueSlots t.bodyValues

/-- The slots of a call with its query and headers. -/
def Supertest.slots (t : TestCase) : List Slot :=
  valueSlots t.queryValues ++
    (headerSlots .setCall t ++
      [.between (".set(" ++ singleQuoted "Accept" ++ ", ") t.returnType ")"])

/-- The slots of a test's body. -/
def Supertest.bodySlots (t : TestCase) : List Slot :=
  if !t.parameters.formData.isEmpty then formSlots t
  else if !t.bodyValues.isEmpty then
    [.between (".set(" ++ singleQuoted "Content-Type" ++ ", ") t.contentType ")"] ++
      valueSlots t.bodyValues
  else []

/-- The slot of the origin. -/
def Supertest.originSlot (scheme host : String) : Slot :=
  .between "var api = supertest(" (scheme ++ "://" ++ host) "); // supertest init;"

end Script

namespace TestModule

open Script

/-- **Slots of a test.** -/
def testSlots (m : TestModule) (t : TestCase) : List Slot :=
  match m with
  | .request => Request.slots true t ++ loadTestSlots t
  | .supertest => Supertest.slots t ++ Supertest.bodySlots t ++ loadTestSlots t

/-- **Slots of a step.** -/
def stepSlots (m : TestModule) (t : TestCase) : List Slot :=
  match m with
  | .request => Request.slots false t ++ [stepErrorSlot t]
  | .supertest => Supertest.slots t ++ valueSlots t.bodyValues ++ [stepErrorSlot t]

/-- The slots of the first lines: the origin, where the API is set up with it. -/
def originSlots (m : TestModule) (scheme host : String) : List Slot :=
  match m with
  | .request => []
  | .supertest => [Supertest.originSlot scheme host]

/-- **Slots of a path's script.** -/
def pathSlots (m : TestModule) (block : PathBlock) : List Slot :=
  m.originSlots block.scheme block.host ++ [pathSlot block] ++
    block.operations.flatMap fun o => o.tests.flatMap m.testSlots

/-- **Slots of a sequence's script.** -/
def sequenceSlots (m : TestModule) (block : SequenceBlock) : List Slot :=
  m.originSlots block.scheme block.host ++ [nameSlot block] ++ block.steps.flatMap m.stepSlots

end TestModule

namespace Script

/-! ### Lines with slots -/

theorem indented_zero (s : String) : indented 0 s = s := by simp [indented]

/-- Lines may be moved more than once, so only the sum of the depths counts. This is what lets a slot be
sought at any depth. -/
theorem indented_indented (a b : Nat) (s : String) :
    indented a (indented b s) = indented (a + b) s := by
  rw [indented, indented, indented, List.replicate_add, String.ofList_append, String.append_assoc]

/-- **Lines with slots**: each slot is one of the lines. -/
def Quotes (lines : Lines) (slots : List Slot) : Prop :=
  ∀ slot ∈ slots, ∃ depth, indented depth slot.text ∈ lines

namespace Quotes

variable {lines more : Lines} {slots others : List Slot}

/-- Where no slot is asked for, all of them are found. -/
theorem nil (lines : Lines) : Quotes lines [] := List.forall_mem_nil _

/-- One slot that is among the lines. -/
theorem of_mem {slot : Slot} (depth : Nat) (h : indented depth slot.text ∈ lines) :
    Quotes lines [slot] :=
  List.forall_mem_singleton.mpr ⟨depth, h⟩

/-- Slots of some lines are slots of all lines around them. Suites and scripts only add lines, so their
proofs end here. -/
theorem mono (h : Quotes lines slots) (hsub : lines ⊆ more) : Quotes more slots := by
  intro slot hslot
  obtain ⟨depth, hline⟩ := h slot hslot
  exact ⟨depth, hsub hline⟩

/-- Lines with slots may stand before others. -/
theorem before (h : Quotes lines slots) (more : Lines) : Quotes (lines ++ more) slots :=
  h.mono (List.subset_append_left _ _)

/-- Lines with slots may stand after others. -/
theorem after (h : Quotes lines slots) (more : Lines) : Quotes (more ++ lines) slots :=
  h.mono (List.subset_append_right _ _)

/-- What is put after one another quotes the slots of both parts. -/
theorem append (h : Quotes lines slots) (h' : Quotes more others) :
    Quotes (lines ++ more) (slots ++ others) :=
  List.forall_mem_append.mpr ⟨h.before more, h'.after lines⟩

/-- A slot as a line without indentation. -/
theorem singleton {line : String} {slot : Slot} (h : slot.text = line) : Quotes [line] [slot] := by
  refine .of_mem 0 ?_
  rw [indented_zero, h]
  exact List.mem_singleton_self _

/-- Slots as lines without indentation. -/
theorem map {α : Type} {f : α → String} {g : α → Slot} {xs : List α}
    (h : ∀ x, (g x).text = f x) : Quotes (xs.map f) (xs.map g) := by
  refine List.forall_mem_map.mpr fun x hx => ⟨0, ?_⟩
  rw [indented_zero, h]
  exact List.mem_map_of_mem hx

/-- A part for each item quotes the slots of all items, in their order. -/
theorem flatMap {α : Type} {f : α → Lines} {g : α → List Slot} {xs : List α}
    (h : ∀ x, Quotes (f x) (g x)) : Quotes (xs.flatMap f) (xs.flatMap g) := by
  intro slot hslot
  obtain ⟨x, hx, hslot⟩ := List.mem_flatMap.mp hslot
  obtain ⟨depth, hline⟩ := h x slot hslot
  exact ⟨depth, List.mem_flatMap.mpr ⟨x, hx, hline⟩⟩

/-- Moving lines to a depth keeps their slots, since a slot may stand at any depth. -/
theorem indented (h : Quotes lines slots) (depth : Nat) :
    Quotes (lines.map (indented depth)) slots := by
  intro slot hslot
  obtain ⟨inner, hline⟩ := h slot hslot
  refine ⟨depth + inner, ?_⟩
  rw [← indented_indented]
  exact List.mem_map_of_mem hline

/-- A group adds its first and its last line and moves those between, so it quotes what they do. -/
theorem group (h : Quotes lines slots) (depth : Nat) (first last : String) :
    Quotes (group depth first lines last) slots := by
  intro slot hslot
  obtain ⟨inner, hline⟩ := h slot hslot
  refine ⟨depth + 2 + inner, ?_⟩
  rw [← indented_indented]
  exact mem_group hline

end Quotes

/-- Each value of a request is named in a field of its own. -/
theorem quotes_valueFields (values : List ResolvedValue) :
    Quotes (valueFields values) (valueSlots values) :=
  Quotes.map fun v => Slot.text_field v.name v.code

/-- A query names its values in fields that follow the one of a key, if it has one. -/
theorem quotes_queryFields (t : TestCase) : Quotes (queryFields t) (valueSlots t.queryValues) :=
  (quotes_valueFields _).after _

/-- A form names its fields in the same way, and has no values for them. -/
theorem quotes_formFields (t : TestCase) : Quotes (formFields t) (formSlots t) :=
  Quotes.map fun p => Slot.text_field p.name _

/-- A load test is named in its options, whatever its target is. -/
theorem quotes_loadTestLines (l : LoadTest) (target : Lines) :
    Quotes (loadTestLines l target) [.between "name: " l.name ","] := by
  refine .of_mem 8 ?_
  simp [loadTestLines, Slot.text_between]

/-- The error of a step quotes the path of its case. The words around it, the method among them, are plain. -/
theorem quotes_stepErrorLines (depth : Nat) (error : String) (t : TestCase) :
    Quotes (stepErrorLines depth error t) [stepErrorSlot t] := by
  have htext : (stepErrorSlot t).text =
      singleQuoted (" | erroneous step - " ++ t.path ++ " " ++ t.method.verb) ++ "));" := by
    simp [stepErrorSlot, Slot.text, Slot.content, String.append_assoc]
  refine .of_mem (depth + 4) ?_
  simp [stepErrorLines, htext]

/-- A line whose two parts bring the quotes. -/
theorem append_eq_of_quotes {lead trail : String} (before s after : String)
    (hlead : lead = before ++ "'") (htrail : trail = "'" ++ after) :
    lead ++ s ++ trail = before ++ singleQuoted s ++ after := by
  subst hlead htrail
  simp only [singleQuoted, String.append_assoc]

/-! ### Slots of `request` -/

namespace Request

/-- The header fields of `request` quote the content type and then what the credentials put into
headers. -/
theorem quotes_headerFields (t : TestCase) :
    Quotes (headerFields t)
      ([.between (singleQuoted "Content-Type" ++ ": ") t.contentType ","] ++
        headerSlots .field t) := by
  have htype : Quotes [field "Content-Type" (singleQuoted t.contentType)]
      [.between (singleQuoted "Content-Type" ++ ": ") t.contentType ","] :=
    .singleton (Slot.text_between ..)
  have hdeclared : Quotes (t.parameters.header.map fun p => openField p.name)
      (t.parameters.header.map fun p => .field p.name Expression.missingCode) :=
    Quotes.map fun p => Slot.text_field p.name _
  rw [headerFields, headerSlots, ← List.append_assoc]
  refine ((htype.before _).append ?_).append hdeclared
  cases t.credentials.headerKey with
  | none => exact .nil _
  | some k => exact .singleton (Slot.text_field ..)

/-- The options of a call hold all slots of a request but those of what surrounds the call. -/
theorem quotes_options (depth : Nat) (withForm : Bool) (t : TestCase) :
    Quotes (options depth withForm t) (slots withForm t) := by
  have hquery := ((quotes_queryFields t).group depth "qs: \x7b" "\x7d,").after
    [indented depth ("url: " ++ t.requestPath.code ++ ",")]
  have hheaders := (quotes_headerFields t).group depth "headers: \x7b" "\x7d,"
  have hbody := (quotes_valueFields t.bodyValues).group depth "json: \x7b" "\x7d,"
  refine (((hquery.before _).append hheaders).append ?_).append hbody
  cases withForm with
  | false => exact .nil _
  | true => exact (quotes_formFields t).group depth "form: \x7b" "\x7d,"

/-- A call is one group around its options, so it has the slots of these. -/
theorem quotes_call (depth : Nat) (withForm : Bool) (t : TestCase) :
    Quotes (call depth withForm t) (slots withForm t) :=
  ((quotes_options (depth + 2) withForm t).after _).before _

/-- A test of `request` adds the name of a load test to the slots of its call, if there is one. -/
theorem quotes_test (style : AssertionStyle) (t : TestCase) :
    Quotes (test style t) (slots true t ++ loadTestSlots t) := by
  refine (((quotes_call 6 true t).after _).before _).append ?_
  unfold loadTestSlots
  cases t.loadTest with
  | none => exact .nil _
  | some l => exact quotes_loadTestLines l _

/-- A step of `request` sends no form, and adds the text of its error. -/
theorem quotes_step (style : AssertionStyle) (t : TestCase) :
    Quotes (step style t) (slots false t ++ [stepErrorSlot t]) :=
  (((quotes_call 8 false t).after _).append (quotes_stepErrorLines 10 "error" t)).before _

end Request

/-! ### Slots of `supertest` -/

namespace Supertest

/-- The header calls of `supertest` quote the same names as the header fields of `request`, and the
accepted type. -/
theorem quotes_headerCalls (t : TestCase) :
    Quotes (headerCalls t)
      (headerSlots .setCall t ++
        [.between (".set(" ++ singleQuoted "Accept" ++ ", ") t.returnType ")"]) := by
  have htype : Quotes [setCall "Accept" (singleQuoted t.returnType)]
      [.between (".set(" ++ singleQuoted "Accept" ++ ", ") t.returnType ")"] :=
    .singleton (Slot.text_between ..)
  have hdeclared : Quotes (t.parameters.header.map fun p => setCall p.name Expression.missingCode)
      (t.parameters.header.map fun p => .setCall p.name Expression.missingCode) :=
    Quotes.map fun p => Slot.text_setCall p.name _
  rw [headerCalls, headerSlots]
  refine (Quotes.append (Quotes.after ?_ _) hdeclared).append htype
  cases t.credentials.headerKey with
  | none => exact .nil _
  | some k => exact .singleton (Slot.text_setCall ..)

/-- Method, path, query and headers make up the request of `supertest`, in this order. -/
theorem quotes_request (depth : Nat) (t : TestCase) : Quotes (request depth t) (slots t) :=
  (((quotes_queryFields t).group depth ".query(\x7b" "\x7d)").after _).append
    ((quotes_headerCalls t).indented depth)

/-- The body of a test is a form or named values, so its slots are those of one of them. -/
theorem quotes_body (depth : Nat) (t : TestCase) : Quotes (body depth t) (bodySlots t) := by
  unfold body bodySlots
  split
  · exact ((quotes_formFields t).group depth ".send(\x7b" "\x7d)").after _
  · split
    · have htype : Quotes [setCall "Content-Type" (singleQuoted t.contentType)]
          [.between (".set(" ++ singleQuoted "Content-Type" ++ ", ") t.contentType ")"] :=
        .singleton (Slot.text_between ..)
      exact (htype.indented depth).append
        ((quotes_valueFields t.bodyValues).group depth ".send(\x7b" "\x7d)")
    · exact .nil _

/-- A test of `supertest` has the slots of its request, of its body and of its load test. -/
theorem quotes_test (style : AssertionStyle) (t : TestCase) :
    Quotes (test style t) (slots t ++ bodySlots t ++ loadTestSlots t) := by
  have hrequest := ((quotes_request 6 t).after [testLine 4 (caseTitle t)]).append (quotes_body 6 t)
  refine ((((hrequest.before _).before _).before _).before _).append ?_
  unfold loadTestSlots
  cases t.loadTest with
  | none => exact .nil _
  | some l => exact quotes_loadTestLines l _

/-- A step of `supertest` always sends its named values, and adds the text of its error. -/
theorem quotes_step (style : AssertionStyle) (t : TestCase) :
    Quotes (step style t) (slots t ++ valueSlots t.bodyValues ++ [stepErrorSlot t]) := by
  have hbody := (quotes_valueFields t.bodyValues).group 8 ".send(\x7b" "\x7d)"
  have hrequest := ((quotes_request 8 t).after [indented 6 "function(cb) \x7b"]).append hbody
  exact ((hrequest.before _).append (quotes_stepErrorLines 10 "err" t)).before _

/-- The origin stands in the first line of a `supertest` file and nowhere else. -/
theorem text_originSlot (scheme host : String) :
    (originSlot scheme host).text = apiLine scheme host := by
  have hquotes : "var api = supertest('" ++ (scheme ++ "://" ++ host) ++ "'); // supertest init;" =
      "var api = supertest(" ++ singleQuoted (scheme ++ "://" ++ host) ++
        "); // supertest init;" :=
    append_eq_of_quotes _ _ _ (by decide) (by decide)
  rw [← String.append_assoc, ← String.append_assoc] at hquotes
  exact (Slot.text_between ..).trans hquotes.symm

end Supertest

/-! ### Slots of a suite -/

/-- A suite of a path is titled with the path as it is written in the description. -/
theorem text_pathSlot (block : PathBlock) :
    (pathSlot block).text = "describe('" ++ block.path ++ "', function() \x7b" := by
  rw [pathSlot, Slot.text_between]
  exact (append_eq_of_quotes _ _ _ (by decide) (by decide)).symm

/-- A suite of a sequence is titled with the name that the configuration gives it. -/
theorem text_nameSlot (block : SequenceBlock) :
    (nameSlot block).text = "describe('" ++ block.name ++ " sequence test', function() \x7b" := by
  simp [nameSlot, Slot.text, Slot.content, singleQuoted, ← String.toList_inj]

/-- A suite of a path has the slots of its head, its own title and those of all its tests, whatever the
dialect makes of a test. -/
theorem quotes_pathSuite {test : TestCase → Lines} {slots : TestCase → List Slot}
    (h : ∀ t, Quotes (test t) (slots t)) {head : Lines} {first : List Slot}
    (hhead : Quotes head first) (block : PathBlock) :
    Quotes (pathSuite block head test)
      (first ++ [pathSlot block] ++ block.operations.flatMap fun o => o.tests.flatMap slots) := by
  have hpath := Quotes.singleton (text_pathSlot block)
  have hoperation (o : OperationBlock) : Quotes (operationLines test o) (o.tests.flatMap slots) :=
    ((Quotes.flatMap fun t => (h t).before _).after _).before _
  exact ((hhead.append (hpath.after [""])).append (Quotes.flatMap hoperation)).before _

/-- A series of steps has the slots of each of them: it joins them by lines that quote nothing. -/
theorem quotes_seriesLines {function : TestCase → Lines} {slots : TestCase → List Slot}
    (h : ∀ t, Quotes (function t) (slots t)) (tests : List TestCase) :
    Quotes (seriesLines function tests) (tests.flatMap slots) := by
  induction tests with
  | nil => exact .nil _
  | cons t rest ih =>
    obtain ⟨close, heq⟩ := exists_seriesLines_cons function t rest
    rw [heq, List.flatMap_cons]
    exact ((h t).before close).append ih

/-- A suite of a sequence has the slots of its head, its own title and those of all its steps. -/
theorem quotes_sequenceSuite {function : TestCase → Lines} {slots : TestCase → List Slot}
    (h : ∀ t, Quotes (function t) (slots t)) {head : Lines} {first : List Slot}
    (hhead : Quotes head first) (block : SequenceBlock) :
    Quotes (sequenceSuite block head function)
      (first ++ [nameSlot block] ++ block.steps.flatMap slots) := by
  have hname := Quotes.singleton (text_nameSlot block)
  exact ((hhead.append ((hname.before _).after [""])).append
    (quotes_seriesLines h block.steps)).before _

end Script

/-! ### Slots of a block -/

namespace Renderer

open Script

/-- The slots of a test are those of its dialect, since a renderer only chooses the dialect. -/
theorem quotes_testLines (r : Renderer) (t : TestCase) :
    Quotes (r.testLines t) (r.testModule.testSlots t) := by
  unfold testLines TestModule.testSlots
  cases r.testModule with
  | request => exact Request.quotes_test r.style t
  | supertest => exact Supertest.quotes_test r.style t

theorem quotes_stepLines (r : Renderer) (t : TestCase) :
    Quotes (r.stepLines t) (r.testModule.stepSlots t) := by
  unfold stepLines TestModule.stepSlots
  cases r.testModule with
  | request => exact Request.quotes_step r.style t
  | supertest => exact Supertest.quotes_step r.style t

/-- The head of a path quotes the origin where the dialect needs it there. Its imports are fixed texts.
-/
theorem quotes_pathHead (r : Renderer) (block : PathBlock) :
    Quotes (r.pathHead block) (r.testModule.originSlots block.scheme block.host) := by
  unfold pathHead TestModule.originSlots
  cases r.testModule with
  | request => exact .nil _
  | supertest =>
    have hapi := Quotes.singleton (Supertest.text_originSlot block.scheme block.host)
    exact ((((hapi.after [importLine "supertest" "supertest"]).after _).before _).before _).before _

/-- The head of a sequence quotes the origin under the same condition. -/
theorem quotes_sequenceHead (r : Renderer) (block : SequenceBlock) :
    Quotes (r.sequenceHead block) (r.testModule.originSlots block.scheme block.host) := by
  unfold sequenceHead TestModule.originSlots
  cases r.testModule with
  | request => exact .nil _
  | supertest =>
    have hapi := Quotes.singleton (Supertest.text_originSlot block.scheme block.host)
    exact (((hapi.before _).after [importLine "supertest" "supertest"]).after _).before _

theorem quotes_pathScript (r : Renderer) (block : PathBlock) :
    Quotes (r.pathScript block) (r.testModule.pathSlots block) := by
  rw [pathScript_eq]
  exact quotes_pathSuite r.quotes_testLines (r.quotes_pathHead block) block

theorem quotes_sequenceScript (r : Renderer) (block : SequenceBlock) :
    Quotes (r.sequenceScript block) (r.testModule.sequenceSlots block) := by
  rw [sequenceScript_eq]
  exact quotes_sequenceSuite r.quotes_stepLines (r.quotes_sequenceHead block) block

/-- **What a script quotes is read back exactly if it is plain.** Each slot of a block is a line in the
script of the block, and wherever that line stands, the literal that the slot's opening quote starts
ends at its closing quote and stands for its content, exactly if its text is free of quotes, backslashes
and line ends. The text goes in as it is: nothing escapes it. -/
theorem render_closes_iff (m : TestModule) (style : AssertionStyle) :
    (∀ block : PathBlock, ∃ lines, (plain m style).render (.path block) = .ok (text lines) ∧
      Quotes lines (m.pathSlots block) ∧
        ∀ slot ∈ m.pathSlots block, ∀ before after, text lines = before ++ slot.text ++ after →
          (slot.Closes after ↔ Literal.IsPlain slot.value.toList)) ∧
    (∀ block : SequenceBlock, ∃ lines,
      (plain m style).render (.sequence block) = .ok (text lines) ∧
        Quotes lines (m.sequenceSlots block) ∧
          ∀ slot ∈ m.sequenceSlots block, ∀ before after,
            text lines = before ++ slot.text ++ after →
              (slot.Closes after ↔ Literal.IsPlain slot.value.toList)) :=
  ⟨fun block => ⟨_, render_plain_path m style block, (plain m style).quotes_pathScript block,
      fun slot _ _ after _ => slot.closes_iff after⟩,
    fun block => ⟨_, render_plain_sequence m style block, (plain m style).quotes_sequenceScript block,
      fun slot _ _ after _ => slot.closes_iff after⟩⟩

/-- **A quote in a path ends its literal**: in every dialect and style the script opens the tests of the
path `/it's` with a literal that stands for `/it` and is followed by the rest of the path. -/
theorem exists_render_not_closes :
    let api : Description := { paths := [("/it's", { operations := [(.get, {})] })] }
    ∃ block, PathBlock.build api {} "/it's" = .ok (some block) ∧
      ∀ m style, ∃ before after,
        (plain m style).render (.path block) =
          .ok (before ++ "describe('/it's', function() \x7b" ++ after) ∧
        Literal.read? ("/it's', function() \x7b" ++ after).toList =
          some (Literal.units "/it".toList, ("s', function() \x7b" ++ after).toList) := by
  intro api
  refine ⟨_, rfl, fun m style => ?_⟩
  have hline : "describe('/it's', function() \x7b" ∈ (plain m style).pathScript
      ⟨"/it's", api.scheme, api.host, [⟨.get, []⟩], {}⟩ := by
    rw [pathScript_eq]
    simp [pathSuite]
  obtain ⟨before, after, heq⟩ : Holds (text ((plain m style).pathScript _)) _ :=
    (holds_join "\n" hline).append_right "\n"
  refine ⟨before, after, by rw [render_plain_path, ← heq]; rfl, ?_⟩
  have htext : ("/it's', function() \x7b" ++ after).toList =
      "/it".toList ++ '\'' :: ("s', function() \x7b" ++ after).toList := by
    simp
  rw [htext]
  exact Literal.read?_of_isPlain (by decide) _

end Renderer

end ApiScaffold
