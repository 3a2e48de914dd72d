import ApiScaffold.Text.Join
import Mathlib.Data.List.Basic

/-!
# Indented lines

Indenting takes a text apart at its line breaks and puts it together again. That loses nothing of a text of
full lines (`Text.IsLined`): none is empty, none holds a carriage return, and no line feed stands at the end.
Of such a text every line feed has its spaces after it, and all else is left as it is (`toList_indentRest`).
-/

namespace ApiScaffold.Text

variable {cs more pad : List Char}

/-- **A full line**: it is not empty, and no character of it breaks a line. -/
structure IsLine (cs : List Char) : Prop where
  ne_nil : cs ≠ []
  noFeed : '\n' ∉ cs
  noReturn : '\r' ∉ cs

/-- **A text of full lines**, with a line feed between any two of them. -/
inductive IsLined : List Char → Prop
  | line {cs : List Char} (h : IsLine cs) : IsLined cs
  | cons {cs more : List Char} (h : IsLine cs) (hmore : IsLined more) : IsLined (cs ++ '\n' :: more)

/-- A line goes on as long as neither a feed nor a return is added. -/
theorem IsLine.append (h : IsLine cs) (hmore : IsLine more) : IsLine (cs ++ more) := by
  refine ⟨?_, ?_, ?_⟩
  · simp [h.ne_nil]
  · simp [h.noFeed, hmore.noFeed]
  · simp [h.noReturn, hmore.noReturn]

/-- Text in front of full lines belongs to the first of them. -/
theorem IsLine.append_lined (h : IsLine cs) (hmore : IsLined more) : IsLined (cs ++ more) := by
  cases hmore with
  | line hline => exact .line (h.append hline)
  | cons hline hrest =>
    rw [← List.append_assoc]
    exact .cons (h.append hline) hrest

/-- Texts of full lines may follow each other, on one line or on lines of their own. -/
theorem IsLined.append (h : IsLined cs) (hmore : IsLined more) : IsLined (cs ++ more) := by
  induction h with
  | line h => exact h.append_lined hmore
  | cons h _ ih =>
    rw [List.append_assoc, List.cons_append]
    exact .cons h ih

/-- **A line feed** joins two texts of whole lines to one. -/
theorem IsLined.append_break (h : IsLined cs) (hmore : IsLined more) : IsLined (cs ++ '\n' :: more) := by
  induction h with
  | line h => exact .cons h hmore
  | cons h _ ih =>
    rw [List.append_assoc, List.cons_append]
    exact .cons h ih

/-- A character that is neither feed nor return is a line. -/
theorem isLine_singleton {c : Char} (hfeed : c ≠ '\n') (hreturn : c ≠ '\r') : IsLine [c] :=
  ⟨by simp, by simp [hfeed.symm], by simp [hreturn.symm]⟩

/-- Spaces in front of full lines. -/
theorem IsLined.spaces_append (h : IsLined cs) (n : Nat) : IsLined (List.replicate n ' ' ++ cs) := by
  induction n with
  | zero => exact h
  | succ n ih => exact (isLine_singleton (by decide) (by decide)).append_lined ih

/-! ### Taking apart -/

/-- Characters before the next feed only make the current line longer. -/
theorem linesFrom_append (hfeed : '\n' ∉ cs) (current rest : List Char) :
    linesFrom current (cs ++ rest) = linesFrom (cs.reverse ++ current) rest := by
  induction cs generalizing current with
  | nil => rfl
  | cons c cs ih =>
    simp only [List.mem_cons, not_or] at hfeed
    rw [List.cons_append, linesFrom, if_neg (Ne.symm hfeed.1), ih hfeed.2]
    simp

theorem dropReturn_eq (h : '\r' ∉ cs) : dropReturn cs = cs := by
  unfold dropReturn
  split
  · next rest hrest =>
    have hmem : '\r' ∈ cs.reverse := by simp [hrest]
    exact absurd (List.mem_reverse.mp hmem) h
  · rfl

/-- The lines of a text that holds no carriage return. -/
theorem lines_eq {s : String} (h : ∀ l ∈ linesFrom [] s.toList, '\r' ∉ l) :
    lines s = (linesFrom [] s.toList).map String.ofList := by
  rw [lines]
  generalize linesFrom [] s.toList = all at h ⊢
  split
  · next hnil =>
    rw [List.reverse_eq_nil_iff.mp hnil]
    rfl
  · next last before hcons =>
    obtain rfl : all = before.reverse ++ [last] := by simpa using congrArg List.reverse hcons
    have hdrop : ∀ l ∈ before.reverse, String.ofList (dropReturn l) = String.ofList l := by
      intro l hl
      rw [dropReturn_eq (h l (List.mem_append_left _ hl))]
    have hlast : dropReturn last = last := dropReturn_eq (h last (by simp))
    rw [List.map_append, List.map_congr_left hdrop, hlast, ite_self]
    rfl

/-- **Full lines are found again**: taking the text apart at its feeds gives lines, and putting a feed
before each but the first gives the text. -/
theorem IsLined.exists_lines (h : IsLined cs) :
    ∃ first rest, linesFrom [] cs = first :: rest ∧ IsLine first ∧ (∀ l ∈ rest, IsLine l) ∧
      cs = first ++ rest.flatMap ('\n' :: ·) := by
  induction h with
  | @line cs h =>
    refine ⟨cs, [], ?_, h, by simp, by simp⟩
    have hlines := linesFrom_append h.noFeed [] []
    simpa [linesFrom, h.ne_nil] using hlines
  | @cons cs more h _ ih =>
    obtain ⟨first, rest, hlines, hfirst, hrest, rfl⟩ := ih
    refine ⟨cs, first :: rest, ?_, h, ?_, ?_⟩
    · rw [linesFrom_append h.noFeed, linesFrom, if_pos rfl, hlines]
      simp
    · simpa using ⟨hfirst, hrest⟩
    · simp

/-! ### Putting together -/

/-- **Spaces after line feeds**: what is put after each line feed of a text. -/
def afterFeeds (pad cs : List Char) : List Char :=
  cs.flatMap fun c => if c = '\n' then '\n' :: pad else [c]

/-- Padding sees each character on its own, so a text may be padded in parts. -/
theorem afterFeeds_append : afterFeeds pad (cs ++ more) = afterFeeds pad cs ++ afterFeeds pad more :=
  List.flatMap_append

/-- Where there is a feed, the padding follows. -/
theorem afterFeeds_cons_feed : afterFeeds pad ('\n' :: cs) = '\n' :: (pad ++ afterFeeds pad cs) := by
  simp [afterFeeds]

/-- A text without a line feed stays as it is. -/
theorem afterFeeds_of_not_mem (h : '\n' ∉ cs) : afterFeeds pad cs = cs := by
  induction cs with
  | nil => rfl
  | cons c cs ih =>
    simp only [List.mem_cons, not_or] at h
    have hc : (if c = '\n' then '\n' :: pad else [c]) = [c] := if_neg (Ne.symm h.1)
    rw [afterFeeds, List.flatMap_cons, hc, ← afterFeeds, ih h.2]
    rfl

/-- Lines have no feeds inside, so only those in front of them are padded. -/
theorem afterFeeds_lines {rest : List (List Char)} (h : ∀ l ∈ rest, IsLine l) :
    afterFeeds pad (rest.flatMap ('\n' :: ·)) = rest.flatMap fun l => '\n' :: (pad ++ l) := by
  induction rest with
  | nil => rfl
  | cons l rest ih =>
    obtain ⟨hl, hrest⟩ := List.forall_mem_cons.mp h
    rw [List.flatMap_cons, List.flatMap_cons, afterFeeds_append, afterFeeds_cons_feed,
      afterFeeds_of_not_mem hl.noFeed, ih hrest]

/-- Lines that are joined by feeds each have one in front, but for the first. -/
theorem toList_join_feed (first : String) (rest : List String) :
    (join "\n" (first :: rest)).toList = first.toList ++ rest.flatMap fun l => '\n' :: l.toList := by
  induction rest generalizing first with
  | nil => simp [join]
  | cons next rest ih =>
    rw [join, String.toList_append, String.toList_append, ih, List.append_assoc, List.flatMap_cons]
    rfl

/-- **Indented text** of full lines: the spaces come after each line feed, and nothing else changes. -/
theorem toList_indentRest {s : String} (h : IsLined s.toList) (width : Nat) :
    (indentRest width s).toList = afterFeeds (List.replicate width ' ') s.toList := by
  obtain ⟨first, rest, hlines, hfirst, hrest, htext⟩ := h.exists_lines
  have hall : lines s = (first :: rest).map String.ofList := by
    rw [← hlines]
    refine lines_eq ?_
    intro l hl
    rw [hlines, List.mem_cons] at hl
    rcases hl with rfl | hl
    · exact hfirst.noReturn
    · exact (hrest l hl).noReturn
  -- no line but the first is left without its spaces, as none is empty
  have hpad : ∀ l ∈ rest, (if (String.ofList l).isEmpty then String.ofList l
      else String.ofList (List.replicate width ' ') ++ String.ofList l).toList =
        List.replicate width ' ' ++ l := by
    intro l hl
    simp [(hrest l hl).ne_nil]
  rw [indentRest, hall, List.map_cons]
  dsimp only
  rw [toList_join_feed, htext, afterFeeds_append, afterFeeds_of_not_mem hfirst.noFeed,
    afterFeeds_lines hrest, String.toList_ofList, List.map_map, List.flatMap_map]
  refine congrArg (first ++ ·) (List.flatMap_congr fun l hl => ?_)
  exact congrArg ('\n' :: ·) (hpad l hl)

end ApiScaffold.Text
