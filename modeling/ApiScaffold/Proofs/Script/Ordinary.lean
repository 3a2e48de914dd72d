import ApiScaffold.Proofs.Script.Suite

/-!
# Ordinary lines

Almost all lines of a request are told by their ends, whatever the values are that stand in them: they
are fixed texts, or fields of an object, which end in a comma, or values in one of a few frames
(`Script.Ordinary`). A property that shows at the ends of a line holds of them all as soon as it holds of
the fixed texts and the frames, which are two short lists. So the lines of requests and steps are gone
through once, here, whatever is to be said of them afterwards: that they call no library, or that they
end in no remark.

The one line that is not ordinary is the assertion on the body (`Renderer.exists_stepLines_eq`).
-/

namespace ApiScaffold.Script

/-! ### Starts and ends of lines -/

/-- A line without the spaces before it. -/
def bare (line : String) : List Char := line.toList.dropWhile (· = ' ')

/-- Whether a line starts with a text, after its spaces. -/
def OpensWith (start line : String) : Prop := start.toList <+: bare line

/-- Whether a line ends in a character. -/
def EndsIn (c : Char) (line : String) : Prop := line.toList.getLast? = some c

instance {c : Char} {line : String} : Decidable (EndsIn c line) :=
  inferInstanceAs (Decidable (_ = _))

/-- Depth does not show in a line that is taken without its indentation. -/
theorem bare_indented (depth : Nat) (s : String) : bare (indented depth s) = bare s := by
  rw [bare, bare, indented, String.toList_append, String.toList_ofList]
  induction depth with
  | zero => rfl
  | succ n ih =>
    rw [List.replicate_succ, List.cons_append, List.dropWhile_cons_of_pos (by simp), ih]

/-- Indentation does not count for how a line starts. -/
theorem opensWith_indented {depth : Nat} {start s : String} :
    OpensWith start (indented depth s) ↔ OpensWith start s := by
  rw [OpensWith, bare_indented, OpensWith]

/-- A line ends as its last part does, as long as that part is not empty. -/
theorem endsIn_append {c : Char} {s t : String} (h : t.toList ≠ []) :
    EndsIn c (s ++ t) ↔ EndsIn c t := by
  rw [EndsIn, String.toList_append, List.getLast?_append, EndsIn]
  cases hlast : t.toList.getLast? with
  | none => exact absurd (List.getLast?_eq_none_iff.mp hlast) h
  | some last => rfl

/-- Indentation counts for how a line ends only where nothing else stands in the line. -/
theorem endsIn_indented {c : Char} (h : c ≠ ' ') {depth : Nat} {s : String} :
    EndsIn c (indented depth s) ↔ EndsIn c s := by
  by_cases hs : s.toList = []
  · rw [EndsIn, EndsIn, indented, String.toList_append, String.toList_ofList, hs, List.append_nil]
    cases depth with
    | zero => rfl
    | succ n => simp [List.getLast?_replicate, h.symm]
  · rw [indented, endsIn_append hs]

/-! ### Ordinary lines -/

/-- The lines without a value in them. -/
def fixedTexts : List String :=
  ["", "/*eslint-disable*/", "/*eslint-enable*/", "request(\x7b", "function(error, res, body) \x7b",
    "qs: \x7b", "headers: \x7b", "form: \x7b", "json: \x7b", ".query(\x7b", ".send(\x7b", "\x7d)",
    ".type('form')", ".end(function(err, res) \x7b", "function(cb) \x7b", "\x7d", "cb(null);",
    "\x7d);"]

/-- **Frames of values**: how a line starts before its values, and how it ends after them. -/
def frames : List (String × String) :=
  [("var schema = ", ";"), ("api.", ")"), (".set(", ")"), (".expect(", ")"),
    ("expect(res.statusCode).to.equal(", ");"), ("assert.equal(res.statusCode, ", ");"),
    ("res.statusCode.should.equal(", ");"), ("if (", ") \x7b"),
    ("return cb(new Error(", ".message +"), ("' | erroneous step - ", "'));"), ("deps.", ";")]

/-- **Ordinary lines**, at any depth. -/
inductive Ordinary : String → Prop
  | fixed {text : String} (h : text ∈ fixedTexts) : Ordinary text
  | field {line : String} (h : EndsIn ',' line) : Ordinary line
  | framed (start last : String) (h : (start, last) ∈ frames) (value : String) :
    Ordinary (start ++ value ++ last)
  | deeper (depth : Nat) {line : String} (h : Ordinary line) : Ordinary (indented depth line)

/-- A line in a frame, however its values are put together. -/
theorem Ordinary.of_eq (start last : String) {line : String} (h : (start, last) ∈ frames)
    (value : String) (heq : line = start ++ value ++ last) : Ordinary line :=
  heq ▸ .framed start last h value

/-- Lines that may be left out have a property if they have it whenever they are there. -/
@[simp] theorem forall_mem_linesIf {p : String → Prop} {condition : Bool} {lines : Lines} :
    (∀ line ∈ linesIf condition lines, p line) ↔ (condition = true → ∀ line ∈ lines, p line) := by
  cases condition <;> simp [linesIf]

/-! ### Fields and groups -/

/-- A field ends in its comma, whatever its name and its code are. -/
theorem endsIn_field (name code : String) : EndsIn ',' (field name code) :=
  (endsIn_append (by decide)).mpr rfl

/-- So does each field of a list of values. -/
theorem endsIn_valueFields (values : List ResolvedValue) :
    ∀ f ∈ valueFields values, EndsIn ',' f :=
  List.forall_mem_map.mpr fun v _ => endsIn_field v.name v.code

/-- And each field of a query, that of a key among them. -/
theorem endsIn_queryFields (t : TestCase) : ∀ f ∈ queryFields t, EndsIn ',' f := by
  refine List.forall_mem_append.mpr ⟨?_, endsIn_valueFields _⟩
  rw [queryKeyFields]
  cases t.credentials.queryKey with
  | none => exact List.forall_mem_nil _
  | some k => exact List.forall_mem_singleton.mpr ((endsIn_append (by decide)).mpr rfl)

theorem endsIn_formFields (t : TestCase) : ∀ f ∈ formFields t, EndsIn ',' f :=
  List.forall_mem_map.mpr fun p _ => endsIn_field p.name _

/-- And each header, those that credentials bring included. -/
theorem endsIn_headerFields (t : TestCase) : ∀ f ∈ Request.headerFields t, EndsIn ',' f := by
  simp only [Request.headerFields, List.forall_mem_append, List.forall_mem_singleton]
  refine ⟨⟨⟨endsIn_field _ _, ?_⟩, ?_⟩, List.forall_mem_map.mpr fun p _ => endsIn_field _ _⟩
  · cases t.credentials.authorization with
    | none => exact List.forall_mem_nil _
    | some s => exact List.forall_mem_singleton.mpr ((endsIn_append (by decide)).mpr rfl)
  · cases t.credentials.headerKey with
    | none => exact List.forall_mem_nil _
    | some k => exact List.forall_mem_singleton.mpr (endsIn_field _ _)

/-- A group is ordinary around fields of objects. -/
theorem ordinary_group {depth : Nat} {first last : String} {fields : List String}
    (hfirst : Ordinary first) (hlast : Ordinary last) (hfields : ∀ f ∈ fields, EndsIn ',' f) :
    ∀ line ∈ group depth first fields last, Ordinary line := by
  rw [group]
  split
  · exact List.forall_mem_nil _
  · simp only [List.forall_mem_append, List.forall_mem_map, List.forall_mem_singleton]
    exact ⟨⟨hfirst.deeper _, fun f hf => (Ordinary.field (hfields f hf)).deeper _⟩, hlast.deeper _⟩

/-! ### Requests -/

/-- The lines of a declared schema are fixed, all but the one that holds the schema's text. -/
theorem ordinary_schemaLines (depth : Nat) (t : TestCase) :
    ∀ line ∈ schemaLines depth t, Ordinary line := by
  rw [schemaLines]
  cases t.schemaText with
  | none => exact List.forall_mem_nil _
  | some schema =>
    simp only [List.forall_mem_cons]
    exact ⟨(Ordinary.fixed (by decide)).deeper _, (Ordinary.framed _ _ (by decide) _).deeper _,
      .fixed (by decide), (Ordinary.fixed (by decide)).deeper _, List.forall_mem_nil _⟩

/-- **The options of a call** are fields, alone or in groups. -/
theorem ordinary_options (depth : Nat) (withForm : Bool) (t : TestCase) :
    ∀ line ∈ Request.options depth withForm t, Ordinary line := by
  simp only [Request.options, List.forall_mem_append, List.forall_mem_singleton, forall_mem_linesIf]
  refine ⟨⟨⟨⟨⟨Ordinary.deeper _ (.field ?_), ?_⟩, Ordinary.deeper _ (.field ?_)⟩, ?_⟩, fun _ => ?_⟩, ?_⟩
  · exact (endsIn_append (by decide)).mpr rfl
  · exact ordinary_group (.fixed (by decide)) (.field rfl) (endsIn_queryFields t)
  · exact (endsIn_append (by decide)).mpr rfl
  · exact ordinary_group (.fixed (by decide)) (.field rfl) (endsIn_headerFields t)
  · exact ordinary_group (.fixed (by decide)) (.field rfl) (endsIn_formFields t)
  · exact ordinary_group (.fixed (by decide)) (.field rfl) (endsIn_valueFields _)

/-- The call of `request` is its options between a first and a last line that are fixed. -/
theorem ordinary_call (depth : Nat) (withForm : Bool) (t : TestCase) :
    ∀ line ∈ Request.call depth withForm t, Ordinary line := by
  simp only [Request.call, List.forall_mem_append, List.forall_mem_cons]
  exact ⟨⟨⟨ordinary_schemaLines depth t, (Ordinary.fixed (by decide)).deeper _, List.forall_mem_nil _⟩,
    ordinary_options (depth + 2) withForm t⟩,
    (Ordinary.field (by decide)).deeper _, (Ordinary.fixed (by decide)).deeper _,
    List.forall_mem_nil _⟩

/-- A header that is set ends in a closing parenthesis. -/
theorem ordinary_setCall (name code : String) : Ordinary (Supertest.setCall name code) :=
  .of_eq ".set(" ")" (by decide) (singleQuoted name ++ ", " ++ code)
    (by simp [Supertest.setCall, String.append_assoc])

theorem ordinary_requestCall (t : TestCase) : Ordinary (Supertest.requestCall t) :=
  .of_eq "api." ")" (by decide) (t.method.key ++ "(" ++ t.requestPath.code)
    (by simp [Supertest.requestCall, String.append_assoc])

/-- **The chain of a request** sets the query and one header after the other. -/
theorem ordinary_request (depth : Nat) (t : TestCase) :
    ∀ line ∈ Supertest.request depth t, Ordinary line := by
  simp only [Supertest.request, Supertest.headerCalls, List.forall_mem_append,
    List.forall_mem_singleton, List.forall_mem_map]
  refine ⟨⟨⟨ordinary_schemaLines depth t, (ordinary_requestCall t).deeper _⟩,
    ordinary_group (.fixed (by decide)) (.fixed (by decide)) (endsIn_queryFields t)⟩,
    ⟨⟨?_, ?_⟩, fun p _ => (ordinary_setCall _ _).deeper _⟩, (ordinary_setCall _ _).deeper _⟩
  · cases t.credentials.authorization with
    | none => exact List.forall_mem_nil _
    | some s => exact List.forall_mem_singleton.mpr ((ordinary_setCall _ _).deeper _)
  · cases t.credentials.headerKey with
    | none => exact List.forall_mem_nil _
    | some k => exact List.forall_mem_singleton.mpr ((ordinary_setCall _ _).deeper _)

/-- What `supertest` sends is a form, named values or nothing. -/
theorem ordinary_body (depth : Nat) (t : TestCase) :
    ∀ line ∈ Supertest.body depth t, Ordinary line := by
  rw [Supertest.body]
  split
  · rw [List.forall_mem_append, List.forall_mem_singleton]
    exact ⟨(Ordinary.fixed (by decide)).deeper _,
      ordinary_group (.fixed (by decide)) (.fixed (by decide)) (endsIn_formFields t)⟩
  split
  · rw [List.forall_mem_append, List.forall_mem_singleton]
    exact ⟨(ordinary_setCall _ _).deeper _,
      ordinary_group (.fixed (by decide)) (.fixed (by decide)) (endsIn_valueFields _)⟩
  · exact List.forall_mem_nil _

/-- The expected status stands in a call, as the headers do. -/
theorem ordinary_expectCall (t : TestCase) : Ordinary (Supertest.expectCall t) :=
  .framed _ _ (by decide) t.responseCode

/-- The assertion on the status starts with what it is about, in every style. -/
theorem ordinary_statusAssertion (t : TestCase) (style : AssertionStyle) :
    Ordinary (t.statusAssertion style "res.statusCode") := by
  cases style with
  | should => exact .framed "res.statusCode.should.equal(" ");" (by decide) _
  | expect => exact .framed "expect(res.statusCode).to.equal(" ");" (by decide) _
  | assert => exact .framed "assert.equal(res.statusCode, " ");" (by decide) _

/-! ### Steps -/

/-- The branch for an error names the error and the path of the case in frames, and closes in a fixed
line. -/
theorem ordinary_stepErrorLines (depth : Nat) (error : String) (t : TestCase) :
    ∀ line ∈ stepErrorLines depth error t, Ordinary line := by
  simp only [stepErrorLines, List.forall_mem_cons]
  refine ⟨.deeper _ (.framed _ _ (by decide) _), .deeper _ (.framed _ _ (by decide) _), .deeper _ ?_,
    .deeper _ (.fixed (by decide)), List.forall_mem_nil _⟩
  have hquote : "' | erroneous step - " = "'" ++ " | erroneous step - " := rfl
  refine .of_eq "' | erroneous step - " "'));" (by decide)
    (t.path ++ " " ++ t.method.verb) ?_
  simp only [hquote, singleQuoted, String.append_assoc]
  rfl

/-- What a step keeps for later steps is assigned in a line that opens with the object of dependencies.
-/
theorem ordinary_keepLine (depth : Nat) (t : TestCase) (code : String) :
    Ordinary (keepLine depth t code) :=
  .deeper depth (.of_eq "deps." ";" (by decide)
    (((t.step.map (·.step)).getD "") ++ " = " ++ code) (by simp [String.append_assoc]))

/-- What a step does after the assertion on the body: it keeps the response, and goes on. -/
def stepEnd (m : TestModule) (t : TestCase) : Lines :=
  ["", keepLine 10 t (responseCode m), indented 10 "cb(null);", indented 8 "\x7d);"]

/-- After the body assertion, a step has ordinary lines only. -/
theorem ordinary_stepEnd (m : TestModule) (t : TestCase) : ∀ line ∈ stepEnd m t, Ordinary line := by
  simp only [stepEnd, List.forall_mem_cons]
  exact ⟨.fixed (by decide), ordinary_keepLine _ _ _, .deeper _ (.fixed (by decide)),
    .deeper _ (.fixed (by decide)), List.forall_mem_nil _⟩

/-- **A step of `request`** has a single line that depends on the body, and ordinary lines on both
sides. -/
theorem Request.exists_step_eq (style : AssertionStyle) (t : TestCase) :
    ∃ before, Request.step style t =
        before ++ [indented 10 (t.bodyAssertion style (bodySubject .request))] ++ stepEnd .request t ∧
      ∀ line ∈ before, Ordinary line := by
  refine ⟨[indented 6 "function(cb) \x7b"] ++ Request.call 8 false t ++ stepErrorLines 10 "error" t ++
    ["", indented 10 (t.statusAssertion style "res.statusCode"), ""], ?_, ?_⟩
  · simp [Request.step, stepEnd, bodySubject, responseCode]
  · simp only [List.forall_mem_append, List.forall_mem_cons]
    exact ⟨⟨⟨⟨.deeper _ (.fixed (by decide)), List.forall_mem_nil _⟩, ordinary_call 8 false t⟩,
      ordinary_stepErrorLines 10 "error" t⟩,
      .fixed (by decide), (ordinary_statusAssertion t style).deeper _, .fixed (by decide),
      List.forall_mem_nil _⟩

/-- **A step of `supertest`** has the same shape, with its own subject in the body assertion. -/
theorem Supertest.exists_step_eq (style : AssertionStyle) (t : TestCase) :
    ∃ before, Supertest.step style t =
        before ++ [indented 10 (t.bodyAssertion style (bodySubject .supertest))] ++
          stepEnd .supertest t ∧
      ∀ line ∈ before, Ordinary line := by
  refine ⟨[indented 6 "function(cb) \x7b"] ++ Supertest.request 8 t ++
    group 8 ".send(\x7b" (valueFields t.bodyValues) "\x7d)" ++
    [indented 8 (Supertest.expectCall t), indented 8 ".end(function(err, res) \x7b"] ++
    stepErrorLines 10 "err" t ++ [""], ?_, ?_⟩
  · simp [Supertest.step, stepEnd, bodySubject, responseCode]
  · simp only [List.forall_mem_append, List.forall_mem_cons]
    exact ⟨⟨⟨⟨⟨⟨.deeper _ (.fixed (by decide)), List.forall_mem_nil _⟩, ordinary_request 8 t⟩,
      ordinary_group (.fixed (by decide)) (.fixed (by decide)) (endsIn_valueFields _)⟩,
      (ordinary_expectCall t).deeper _, .deeper _ (.fixed (by decide)), List.forall_mem_nil _⟩,
      ordinary_stepErrorLines 10 "err" t⟩, .fixed (by decide), List.forall_mem_nil _⟩

end ApiScaffold.Script

namespace ApiScaffold.Renderer

open Script

/-- **The lines of a step**, in both dialects: the assertion on the body, between ordinary lines. -/
theorem exists_stepLines_eq (r : Renderer) (t : TestCase) :
    ∃ before, r.stepLines t =
        before ++ [indented 10 (t.bodyAssertion r.style (bodySubject r.testModule))] ++
          stepEnd r.testModule t ∧
      ∀ line ∈ before, Ordinary line := by
  rw [stepLines]
  cases r.testModule with
  | request => exact Request.exists_step_eq r.style t
  | supertest => exact Supertest.exists_step_eq r.style t

end ApiScaffold.Renderer
