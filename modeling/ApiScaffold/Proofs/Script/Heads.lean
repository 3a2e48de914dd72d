import ApiScaffold.Proofs.Script.Calls

/-!
# The imports of a script

A script starts with its imports, and a library is imported in the head or not at all. What stands
in the head stands before every test: the lines of a test are indented and those of the head are
not, so a test cannot begin inside the head (`Script.Follows`).
-/

namespace ApiScaffold.Script

variable {kind : LineKind}

/-! ### What a head imports -/

/-- The lines that import the validator are there if its flag is set, and they import nothing else. -/
theorem in_validatorLines (hkind : kind ∈ LineKind.all) (imports : Imports) :
    kind.In (validatorLines imports) ↔ kind = .validatorImport ∧ imports.validator = true := by
  have hlibrary : kind.Meets (importLine "ZSchema" "z-schema") ↔ kind = .validatorImport :=
    LineKind.meets_iff_eq hkind (by decide) (by decide)
  have hinstance : kind.Meets "var validator = new ZSchema(\x7b\x7d);" ↔ kind = .validatorImport :=
    LineKind.meets_iff_eq hkind (by decide) (by decide)
  rw [validatorLines]
  cases imports.validator <;> simp [linesIf, validatorSetup, LineKind.In, hlibrary, hinstance]

theorem in_loadTesterLines (hkind : kind ∈ LineKind.all) (imports : Imports) :
    kind.In (loadTesterLines imports) ↔ kind = .loadTesterImport ∧ imports.loadTest = true := by
  have hlibrary : kind.Meets (importLine "arete" "arete") ↔ kind = .loadTesterImport :=
    LineKind.meets_iff_eq hkind (by decide) (by decide)
  rw [loadTesterLines]
  cases imports.loadTest <;> simp [linesIf, loadTesterSetup, LineKind.In, hlibrary]

/-- What loads the environment is of none of the kinds. -/
theorem quiet_environmentLines (imports : Imports) :
    ∀ line ∈ environmentLines imports, Quiet line := by
  rw [environmentLines, forall_mem_linesIf]
  exact fun _ => by decide

theorem quiet_apiLine (scheme host : String) : Quiet (Supertest.apiLine scheme host) := by
  unfold Supertest.apiLine
  simp +decide [String.append_assoc]

/-- Lines that are there under a condition are quite there when it holds. -/
theorem linesIf_of_true {condition : Bool} (h : condition = true) (lines : Lines) :
    linesIf condition lines = lines := by
  rw [linesIf, if_pos h]

/-! ### What stands in front of a test -/

/-- Whether there are spaces before a line. -/
def IsIndented (line : String) : Prop := line.toList.head? = some ' '

instance {line : String} : Decidable (IsIndented line) := inferInstanceAs (Decidable (_ = _))

/-- A head stands at the margin, its last line included. -/
theorem not_isIndented_apiLine (scheme host : String) :
    ¬ IsIndented (Supertest.apiLine scheme host) := by
  unfold Supertest.apiLine
  simp [IsIndented]

/-- What is moved to a depth does not stand at the margin, so it is no line of a head. -/
theorem isIndented_indented (depth : Nat) (s : String) : IsIndented (indented (depth + 1) s) := by
  simp [IsIndented, indented, List.replicate_succ]

/-- **Lines after a setup**: wherever the lines stand in a script, the setup stands before them. -/
def Follows (script setup lines : Lines) : Prop :=
  ∀ before after, script = before ++ lines ++ after → setup <:+: before

/-- What stands in a head stands before all indented lines. -/
theorem follows_of_head {head rest setup lines : Lines} {line : String}
    (hhead : ∀ line ∈ head, ¬ IsIndented line) (hfirst : lines.head? = some line)
    (hindented : IsIndented line) (h : setup <:+: head) : Follows (head ++ rest) setup lines := by
  intro before after heq
  obtain ⟨more, rfl⟩ := List.head?_eq_some_iff.mp hfirst
  have hbefore : before <+: head ++ rest := by
    rw [heq, List.append_assoc]
    exact List.prefix_append _ _
  rcases List.prefix_or_prefix_of_prefix hbefore (List.prefix_append head rest) with hp | hp
  · obtain ⟨gap, rfl⟩ := hp
    cases gap with
    | nil => simpa using h
    | cons next gap =>
      -- the lines would start inside the head
      rw [List.append_assoc, List.append_assoc, List.append_cancel_left_eq] at heq
      obtain ⟨rfl, -⟩ := List.cons.inj heq
      exact absurd hindented (hhead next (by simp))
  · exact h.trans hp.isInfix

/-! ### What stands after a head -/

/-- A line of some kind is in one of the parts that make up a script. -/
theorem in_flatMap {α : Type} {f : α → Lines} {xs : List α} :
    kind.In (xs.flatMap f) ↔ ∃ x ∈ xs, kind.In (f x) := by
  constructor
  · rintro ⟨line, hline, hmeets⟩
    obtain ⟨x, hx, hline⟩ := List.mem_flatMap.mp hline
    exact ⟨x, hx, line, hline, hmeets⟩
  · rintro ⟨x, hx, line, hline, hmeets⟩
    exact ⟨line, List.mem_flatMap.mpr ⟨x, hx, hline⟩, hmeets⟩

/-- Operations add a title and closing lines to their tests, and none of these is of a kind. -/
theorem in_operationLines (hkind : kind ∈ LineKind.all) (test : TestCase → Lines)
    (o : OperationBlock) :
    kind.In (operationLines test o) ↔ ∃ t ∈ o.tests, kind.In (test t) := by
  have hopening : Quiet (indented 2 ("describe('" ++ o.method.key ++ "', function() \x7b")) := by
    simp +decide [String.append_assoc]
  have hempty : ¬ kind.In [""] := not_in_of_quiet (by decide) hkind
  have hclosing : ¬ kind.In [indented 2 "\x7d);", ""] := not_in_of_quiet (by decide) hkind
  simp only [operationLines, LineKind.in_append, LineKind.in_singleton, in_flatMap,
    hopening kind hkind, hempty, hclosing, or_false, false_or]

/-- **A suite of a path** has a line of a kind in its head or in one of its tests. -/
theorem in_pathSuite (hkind : kind ∈ LineKind.all) (block : PathBlock) (head : Lines)
    (test : TestCase → Lines) :
    kind.In (pathSuite block head test) ↔
      kind.In head ∨ ∃ t ∈ block.tests, kind.In (test t) := by
  have hopening : ∀ line ∈ ["", "describe('" ++ block.path ++ "', function() \x7b"],
      Quiet line := by
    simp +decide [String.append_assoc]
  have hclosing : ¬ kind.In ["\x7d);"] := not_in_of_quiet (by decide) hkind
  simp only [pathSuite, LineKind.in_append, in_flatMap, in_operationLines hkind,
    block.exists_mem_tests, not_in_of_quiet hopening hkind, hclosing, or_false]

/-- A series only joins its steps, and what joins them is of no kind. -/
theorem in_seriesLines (hkind : kind ∈ LineKind.all) (function : TestCase → Lines)
    (tests : List TestCase) :
    kind.In (seriesLines function tests) ↔ ∃ t ∈ tests, kind.In (function t) := by
  have hclose : ¬ kind.Meets (indented 6 "\x7d") := (by decide : Quiet _) kind hkind
  have hcomma : ¬ kind.Meets (indented 6 "\x7d,") := (by decide : Quiet _) kind hkind
  induction tests with
  | nil => simp [seriesLines, LineKind.In]
  | cons t rest ih =>
    cases rest with
    | nil =>
      rw [seriesLines, LineKind.in_append, LineKind.in_singleton]
      simp [hclose]
    | cons next more =>
      rw [seriesLines, LineKind.in_append, LineKind.in_append, LineKind.in_singleton]
      simp [hcomma, ih]

/-- **A suite of a sequence** has a line of a kind in its head or in one of its steps. -/
theorem in_sequenceSuite (hkind : kind ∈ LineKind.all) (block : SequenceBlock) (head : Lines)
    (function : TestCase → Lines) :
    kind.In (sequenceSuite block head function) ↔
      kind.In head ∨ ∃ t ∈ block.steps, kind.In (function t) := by
  have hopening : ∀ line ∈ ["", "describe('" ++ block.name ++ " sequence test', function() \x7b",
      testLine 2 "should complete the sequence without err", indented 4 "async.series(["],
      Quiet line := by
    simp +decide [String.append_assoc]
  have hclosing : ¬ kind.In [indented 4 "],", indented 4 "function(err) \x7b",
      indented 6 "done(err);", indented 4 "\x7d);", indented 2 "\x7d);", "\x7d);"] :=
    not_in_of_quiet (by decide) hkind
  simp only [sequenceSuite, LineKind.in_append, in_seriesLines hkind,
    not_in_of_quiet hopening hkind, hclosing, or_false]

end ApiScaffold.Script

namespace ApiScaffold.Renderer

open Script

variable {kind : LineKind}

/-! ### Heads of files -/

/-- **Heads of paths**: besides the imports they hold quiet lines. -/
theorem exists_pathHead_eq (r : Renderer) (block : PathBlock) :
    ∃ opening libraries closing : Lines,
      r.pathHead block = opening ++ validatorLines block.imports ++ libraries ++
        loadTesterLines block.imports ++ closing ++ environmentLines block.imports ∧
      ∀ line ∈ opening ++ libraries ++ closing, Quiet line ∧ ¬ IsIndented line := by
  rw [pathHead]
  cases r.testModule with
  | request =>
    refine ⟨_, _, ["", r.style.setup], rfl, ?_⟩
    cases r.style <;> decide
  | supertest =>
    refine ⟨_, _, ["", r.style.setup], rfl, ?_⟩
    cases r.style <;> simp +decide [quiet_apiLine, not_isIndented_apiLine]

/-- **Heads of sequences**: besides the imports they hold quiet lines. They never import the load
tester. -/
theorem exists_sequenceHead_eq (r : Renderer) (block : SequenceBlock) :
    ∃ opening closing : Lines,
      r.sequenceHead block = opening ++ validatorLines block.imports ++ closing ++
        environmentLines block.imports ∧
      ∀ line ∈ opening ++ closing, Quiet line ∧ ¬ IsIndented line := by
  rw [sequenceHead]
  cases r.testModule with
  | request =>
    refine ⟨_, _, rfl, ?_⟩
    cases r.style <;> decide
  | supertest =>
    refine ⟨_, _, rfl, ?_⟩
    cases r.style <;> simp +decide [quiet_apiLine, not_isIndented_apiLine]

/-- **What the head of a path imports**: the validator and the load tester where its block says so.
-/
theorem in_pathHead (hkind : kind ∈ LineKind.all) (r : Renderer) (block : PathBlock) :
    kind.In (r.pathHead block) ↔
      kind = .validatorImport ∧ block.imports.validator = true ∨
        kind = .loadTesterImport ∧ block.imports.loadTest = true := by
  obtain ⟨opening, libraries, closing, heq, hquiet⟩ := r.exists_pathHead_eq block
  have hnot := not_in_of_quiet (fun line hline => (hquiet line hline).1) hkind
  have henvironment := not_in_of_quiet (quiet_environmentLines block.imports) hkind
  simp only [LineKind.in_append, not_or] at hnot
  simp only [heq, LineKind.in_append, in_validatorLines hkind, in_loadTesterLines hkind,
    hnot, henvironment, false_or, or_false]

/-- The head of a sequence imports the validator or nothing: a sequence runs no load test. -/
theorem in_sequenceHead (hkind : kind ∈ LineKind.all) (r : Renderer) (block : SequenceBlock) :
    kind.In (r.sequenceHead block) ↔ kind = .validatorImport ∧ block.imports.validator = true := by
  obtain ⟨opening, closing, heq, hquiet⟩ := r.exists_sequenceHead_eq block
  have hnot := not_in_of_quiet (fun line hline => (hquiet line hline).1) hkind
  have henvironment := not_in_of_quiet (quiet_environmentLines block.imports) hkind
  simp only [LineKind.in_append, not_or] at hnot
  simp only [heq, LineKind.in_append, in_validatorLines hkind, hnot, henvironment, false_or,
    or_false]

/-! ### Whole files -/

/-- **What the file of a path imports**: the validator where its block says so, and nowhere but in
its head. -/
theorem validatorImport_in_pathScript (r : Renderer) (block : PathBlock) :
    LineKind.validatorImport.In (r.pathScript block) ↔ block.imports.validator = true := by
  have hkind : .validatorImport ∈ LineKind.all := by decide
  rw [pathScript_eq, in_pathSuite hkind, in_pathHead hkind]
  simp +decide [in_testLines hkind]

/-- The load tester is imported in the script of a path exactly if the flag says so. -/
theorem loadTesterImport_in_pathScript (r : Renderer) (block : PathBlock) :
    LineKind.loadTesterImport.In (r.pathScript block) ↔ block.imports.loadTest = true := by
  have hkind : .loadTesterImport ∈ LineKind.all := by decide
  rw [pathScript_eq, in_pathSuite hkind, in_pathHead hkind]
  simp +decide [in_testLines hkind]

/-- The validator is imported in the script of a sequence exactly if the flag says so. -/
theorem validatorImport_in_sequenceScript (r : Renderer) (block : SequenceBlock) :
    LineKind.validatorImport.In (r.sequenceScript block) ↔ block.imports.validator = true := by
  have hkind : .validatorImport ∈ LineKind.all := by decide
  rw [sequenceScript_eq, in_sequenceSuite hkind, in_sequenceHead hkind]
  simp +decide [in_stepLines hkind]

/-! ### Imports before tests -/

/-- No line of a head is indented, and every line of a test is. This tells the two apart in a script. -/
theorem not_isIndented_pathHead (r : Renderer) (block : PathBlock) :
    ∀ line ∈ r.pathHead block, ¬ IsIndented line := by
  obtain ⟨opening, libraries, closing, heq, hplain⟩ := r.exists_pathHead_eq block
  simp only [List.forall_mem_append] at hplain
  obtain ⟨⟨hopening, hlibraries⟩, hclosing⟩ := hplain
  simp only [heq, List.forall_mem_append, validatorLines, loadTesterLines, environmentLines,
    forall_mem_linesIf]
  refine ⟨⟨⟨⟨⟨fun line h => (hopening line h).2, fun _ => by decide⟩,
    fun line h => (hlibraries line h).2⟩, fun _ => by decide⟩,
    fun line h => (hclosing line h).2⟩, fun _ => by decide⟩

/-- The same of the head of a sequence. -/
theorem not_isIndented_sequenceHead (r : Renderer) (block : SequenceBlock) :
    ∀ line ∈ r.sequenceHead block, ¬ IsIndented line := by
  obtain ⟨opening, closing, heq, hplain⟩ := r.exists_sequenceHead_eq block
  simp only [List.forall_mem_append] at hplain
  obtain ⟨hopening, hclosing⟩ := hplain
  simp only [heq, List.forall_mem_append, validatorLines, environmentLines, forall_mem_linesIf]
  exact ⟨⟨⟨fun line h => (hopening line h).2, fun _ => by decide⟩,
    fun line h => (hclosing line h).2⟩, fun _ => by decide⟩

/-- **Tests follow the head** of a path's file, and so what is set up there. -/
theorem follows_pathScript (r : Renderer) (block : PathBlock) (t : TestCase) {setup : Lines}
    (h : setup <:+: r.pathHead block) : Follows (r.pathScript block) setup (r.testLines t) := by
  rw [pathScript_eq, pathSuite, List.append_assoc, List.append_assoc]
  exact follows_of_head (r.not_isIndented_pathHead block) (r.head?_testLines t)
    (isIndented_indented 3 _) h

/-- **Functions follow the head** of a sequence's file. -/
theorem follows_sequenceScript (r : Renderer) (block : SequenceBlock) (t : TestCase)
    {setup : Lines} (h : setup <:+: r.sequenceHead block) :
    Follows (r.sequenceScript block) setup (r.stepLines t) := by
  have hfirst : (r.stepLines t).head? = some (indented 6 "function(cb) \x7b") := by
    rw [stepLines]
    cases r.testModule <;> rfl
  rw [sequenceScript_eq, sequenceSuite, List.append_assoc, List.append_assoc]
  exact follows_of_head (r.not_isIndented_sequenceHead block) hfirst (isIndented_indented 5 _) h

/-- The imports of a block stand in the head of its file. -/
theorem infix_pathHead (r : Renderer) (block : PathBlock) :
    validatorLines block.imports <:+: r.pathHead block ∧
      loadTesterLines block.imports <:+: r.pathHead block ∧
      environmentLines block.imports <:+: r.pathHead block := by
  obtain ⟨opening, libraries, closing, heq, -⟩ := r.exists_pathHead_eq block
  rw [heq]
  refine ⟨⟨opening, libraries ++ (loadTesterLines block.imports ++ (closing ++
      environmentLines block.imports)), by simp only [List.append_assoc]⟩,
    ⟨opening ++ (validatorLines block.imports ++ libraries), closing ++
      environmentLines block.imports, by simp only [List.append_assoc]⟩, ?_⟩
  exact (List.suffix_append _ _).isInfix

/-- The import lines of a sequence stand in its head as a whole, one after the other. -/
theorem infix_sequenceHead (r : Renderer) (block : SequenceBlock) :
    validatorLines block.imports <:+: r.sequenceHead block ∧
      environmentLines block.imports <:+: r.sequenceHead block := by
  obtain ⟨opening, closing, heq, -⟩ := r.exists_sequenceHead_eq block
  rw [heq]
  refine ⟨⟨opening, closing ++ environmentLines block.imports,
    by simp only [List.append_assoc]⟩, ?_⟩
  exact (List.suffix_append _ _).isInfix

end ApiScaffold.Renderer
