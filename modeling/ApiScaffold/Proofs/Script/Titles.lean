import ApiScaffold.Proofs.Literal.Escape
import ApiScaffold.Proofs.Script.Suite
import ApiScaffold.Proofs.TestCase
import ApiScaffold.Proofs.Text.Summary

/-!
# Titles of tests

The title of a test is a text between single quotes, and the summary of its case is part of it. A
description may hold quotes and line ends, and yet the title is always a literal of one line that is
read as the summary (`opensTest_testLine`): quotes and backslashes are escaped, and the line ends are
gone from a summary, since a single space is the only white space in it.

The summary is the description put on one line and cut, so what the title needs of it comes from
`Text.IsSpaced.of_collapse` and `Text.IsSpaced.of_truncate`.
-/

namespace ApiScaffold

/-! ### Escaped titles -/

/-- No line ends in a text on one line. -/
theorem Text.IsSpaced.endsLine_eq_false {cs : List Char} (h : IsSpaced cs) :
    ∀ c ∈ cs, Literal.endsLine c = false := by
  intro c hc
  refine Bool.eq_false_iff.mpr ?_
  intro hend
  have hcases : c = '\n' ∨ c = '\r' ∨ c = '\u2028' ∨ c = '\u2029' := by
    simpa [Literal.endsLine, or_assoc] using hend
  -- the characters that end lines are white space, and none of them is a space
  have hspace : c = ' ' := by
    refine h.eq_space c hc ?_
    rcases hcases with rfl | rfl | rfl | rfl <;> rfl
  subst hspace
  revert hend
  decide

namespace Script

/-- **Titles spell their text**, where no line ends in it: quotes and backslashes are escaped, and all
else is written as it is. -/
theorem spells_escapeTitleChar {c : Char} (h : Literal.endsLine c = false) :
    Literal.Spells c (escapeTitleChar c) := by
  unfold escapeTitleChar
  split_ifs with hspecial
  · refine .inl ⟨?_, rfl⟩
    rcases hspecial with rfl | rfl | rfl <;> decide
  · obtain ⟨hbackslash, hspecial⟩ := not_or.mp hspecial
    obtain ⟨-, hquote⟩ := not_or.mp hspecial
    have hend : c ≠ '\n' ∧ c ≠ '\r' := by
      constructor <;> rintro rfl <;> cases h
    exact .inr ⟨List.forall_mem_singleton.mpr ⟨hquote, hbackslash, hend⟩, rfl⟩

theorem escapedTitle_append (s t : String) :
    escapedTitle (s ++ t) = escapedTitle s ++ escapedTitle t := by
  simp only [escapedTitle, String.toList_append, List.flatMap_append, String.ofList_append]

/-- What stands in front of a summary needs no escapes. -/
theorem caseTitle_eq (t : TestCase) :
    caseTitle t = escapedTitle ("should respond with " ++ t.summary) := by
  have hlead : escapedTitle "should respond with " = "should respond with " := by decide
  rw [escapedTitle_append, hlead]
  rfl

/-- **A line that opens a test** under a title: it has a literal of one line, and after its opening
quote the literal is read up to its closing quote, as the title. -/
def OpensTest (line title : String) : Prop :=
  ∃ literal, line = "    it('" ++ literal ++ "', function(done) \x7b" ∧
    (∀ c ∈ literal.toList, Literal.endsLine c = false) ∧
    Literal.read? (literal ++ "', function(done) \x7b").toList =
      some (Literal.units title.toList, ", function(done) \x7b".toList)

/-- Escapes bring no line end. -/
theorem endsLine_of_mem_escapeTitleChar {c d : Char} (h : Literal.endsLine c = false)
    (hd : d ∈ escapeTitleChar c) : Literal.endsLine d = false := by
  rcases spells_escapeTitleChar h with ⟨-, heq⟩ | ⟨-, heq⟩
  · rw [heq] at hd
    rcases List.mem_pair.mp hd with rfl | rfl
    · rfl
    · exact h
  · rw [heq] at hd
    rwa [List.mem_singleton.mp hd]

/-- **An escaped text opens a test** as its title, if no line ends in it. -/
theorem opensTest_testLine {title : String} (h : ∀ c ∈ title.toList, Literal.endsLine c = false) :
    OpensTest (testLine 4 (escapedTitle title)) title := by
  refine ⟨escapedTitle title, ?_, ?_, ?_⟩
  · have hopening : "    it('" = String.ofList (List.replicate 4 ' ') ++ "it('" := by decide
    rw [hopening, testLine, indented, String.append_assoc, String.append_assoc, String.append_assoc]
  · rw [escapedTitle, String.toList_ofList]
    intro d hd
    obtain ⟨c, hc, hd⟩ := List.mem_flatMap.mp hd
    exact endsLine_of_mem_escapeTitleChar (h c hc) hd
  · rw [String.toList_append, escapedTitle, String.toList_ofList]
    exact Literal.read?_of_spells (fun c hc => spells_escapeTitleChar (h c hc)) _

/-- **Titles are read as summaries**, where these are on one line. -/
theorem opensTest_caseTitle {t : TestCase} (h : Text.IsSpaced t.summary.toList) :
    OpensTest (testLine 4 (caseTitle t)) ("should respond with " ++ t.summary) := by
  rw [caseTitle_eq]
  refine opensTest_testLine ?_
  have hlead : "should respond with ".toList.all (!Literal.endsLine ·) = true := by decide
  intro c hc
  rw [String.toList_append] at hc
  rcases List.mem_append.mp hc with hc | hc
  · simpa using List.all_eq_true.mp hlead c hc
  · exact h.endsLine_eq_false c hc

end Script

/-! ### Summaries of cases -/

namespace TestCase

variable {api : Description} {config : RunConfig} {security : List SecurityRequirement}
  {request : CaseRequest} {t : TestCase}

/-- The summary of a case is its description on one line, cut to the limit. -/
theorem summary_of_build (h : build api config security request = .ok t) :
    t.summary = Text.truncate (Text.collapse t.description) config.descriptionLimit := by
  obtain ⟨_, _, _, _, ht⟩ := assembled_of_build h
  rw [← ht, assemble]

/-- **Summaries** are on one line with single spaces. Collapsing makes the description so, and cutting
it short does not undo that. -/
theorem isSpaced_summary_of_build (h : build api config security request = .ok t) :
    Text.IsSpaced t.summary.toList := by
  rw [summary_of_build h]
  exact (Text.IsSpaced.of_collapse _).of_truncate _

end TestCase

/-- **Summaries are one line, bounded and cut on word boundaries.** A text of at most `limit` characters
is not cut, and of a longer one a cut keeps what it may, with three dots after it. A collapsed text is
its words with single spaces between them. So the summary of every case that is built has a single
space as its only white space, between two other characters, and at most three characters more than
the limit; and in the script of a path, in either dialect, each test opens with a literal of one line
that is read as the title with the summary. -/
theorem summaries_on_one_line :
    (∀ (s : String) (limit : Nat), s.length ≤ limit → Text.truncate s limit = s) ∧
    (∀ (s : String) (limit : Nat), limit < s.length → ∃ kept,
      Text.truncate s limit = String.ofList kept ++ "..." ∧ Text.IsCut s.toList limit kept) ∧
    (∀ s : String, Text.collapse s =
      Text.join " " ((Text.spacedWords s.toList).map String.ofList)) ∧
    ∀ (context : RunContext) (api : Description) (config : RunConfig) (request : CaseRequest)
      (t : TestCase), (context.build api config request).1 = .ok t →
        Text.IsSpaced t.summary.toList ∧ t.summary.length ≤ config.descriptionLimit + 3 ∧
        ∀ (r : Renderer) (block : PathBlock), t ∈ block.tests →
          ∃ before line rest after, r.pathScript block = before ++ r.testLines t ++ after ∧
            r.testLines t = line :: rest ∧
            Script.OpensTest line ("should respond with " ++ t.summary) := by
  refine ⟨fun s limit => Text.truncate_of_length_le, fun s limit => Text.exists_truncate_eq,
    Text.collapse_eq, ?_⟩
  intro context api config request t h
  rw [RunContext.build_fst] at h
  have hspaced := TestCase.isSpaced_summary_of_build h
  refine ⟨hspaced, ?_, ?_⟩
  · rw [TestCase.summary_of_build h]
    exact Text.length_truncate_le _ _
  · intro r block ht
    obtain ⟨before, after, heq⟩ := Script.exists_pathSuite_eq (r.pathHead block) r.testLines ht
    obtain ⟨rest, htest⟩ : ∃ rest, r.testLines t = Script.testLine 4 (Script.caseTitle t) :: rest :=
      List.head?_eq_some_iff.mp (r.head?_testLines t)
    refine ⟨r.pathHead block ++ before, _, rest, after, ?_, htest,
      Script.opensTest_caseTitle hspaced⟩
    rw [Renderer.pathScript_eq, heq]

/-- The response with a pet is described in two lines, with quotes and a backslash. -/
def Description.quotedPets : Description where
  paths :=
    [("/pets",
      { operations :=
          [(.get,
            { responses := [("200", { description := "a pet's \"tag\"\n  or \\ if none" })] })] })]

/-- The summary of its case is one line, cut before the backslash. -/
theorem summaries_on_one_line_quotedPets :
    ∃ t : TestCase, (RunContext.build {} .quotedPets { maxLen := some 71 }
        ⟨"/pets", .get, "200", jsonType, jsonType, none⟩).1 = .ok t ∧
      t.summary = "200 a pet's \"tag\" or..." ∧ Text.IsSpaced t.summary.toList ∧
      t.summary.length ≤ 24 ∧
      ∀ (r : Renderer) (block : PathBlock), t ∈ block.tests →
        ∃ before line rest after, r.pathScript block = before ++ r.testLines t ++ after ∧
          r.testLines t = line :: rest ∧
          Script.OpensTest line ("should respond with " ++ t.summary) := by
  have h : ((RunContext.build {} .quotedPets { maxLen := some 71 }
      ⟨"/pets", .get, "200", jsonType, jsonType, none⟩).1.map (·.summary)) =
        .ok "200 a pet's \"tag\" or..." := by decide +kernel
  obtain ⟨t, ht, hsummary⟩ := Built.map_eq_ok.mp h
  obtain ⟨-, -, -, hcases⟩ := summaries_on_one_line
  obtain ⟨hspaced, hlength, htitles⟩ := hcases _ _ _ _ t ht
  exact ⟨t, ht, hsummary, hspaced, hlength, htitles⟩

end ApiScaffold
