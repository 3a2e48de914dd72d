import ApiScaffold.Text.Summary
import Mathlib.Data.List.DropRight

/-!
# Words of a text

`Text.collapse` drops white space at the ends of a text and writes each run of it inside as one space.
The *words* of a text are said without that scan: they are the pieces between its white space that are
not empty. A collapsed text is its words with single spaces between them (`collapse_eq`).

The proof goes along the words (`induct_words`). What is left after trimming ends in a word, so a run of
white space always has a word after it, and the one space that is written for it stands between two.
-/

namespace ApiScaffold.Text

open Unicode

/-! ### White space and letters -/

/-- No two ranges of white space and of letters and numbers meet. -/
theorem spaceRanges_disjoint :
    ∀ r ∈ spaceRanges, ∀ o ∈ alphanumericRanges, r.2 < o.1 ∨ o.2 < r.1 := by
  decide +kernel

theorem inRanges_iff {ranges : List (Nat × Nat)} {n : Nat} :
    inRanges ranges n = true ↔ ∃ r ∈ ranges, r.1 ≤ n ∧ n ≤ r.2 := by
  simp [inRanges]

/-- White space of ASCII is no letter and no digit. -/
theorem isAlphanum_of_lt :
    ∀ n < 128, inRanges spaceRanges n = true → (Char.ofNat n).isAlphanum = false := by
  decide

/-- **White space is neither a letter nor a number.** -/
theorem isAlphanumeric_of_isSpace {c : Char} (h : isSpace c = true) : isAlphanumeric c = false := by
  rw [isAlphanumeric]
  split_ifs with hascii
  · have hnone := isAlphanum_of_lt c.toNat hascii h
    rwa [Char.ofNat_toNat] at hnone
  · refine Bool.eq_false_iff.mpr ?_
    intro hletter
    obtain ⟨r, hr, hrlow, hrhigh⟩ := inRanges_iff.mp h
    obtain ⟨o, ho, holow, hohigh⟩ := inRanges_iff.mp hletter
    have hapart := spaceRanges_disjoint r hr o ho
    omega

/-! ### Words -/

/-- **A word**: some characters, and no white space among them. -/
structure IsWord (w : List Char) : Prop where
  ne_nil : w ≠ []
  not_isSpace : ∀ c ∈ w, isSpace c = false

/-- **Words of a text**: the pieces between its white space that are not empty. -/
def spacedWords (cs : List Char) : List (List Char) := (cs.splitOnP isSpace).filter (· ≠ [])

variable {c : Char} {cs ds w : List Char}

theorem spacedWords_nil : spacedWords [] = [] := rfl

theorem spacedWords_append_cons (cs ds : List Char) (h : isSpace c = true) :
    spacedWords (cs ++ c :: ds) = spacedWords cs ++ spacedWords ds := by
  rw [spacedWords, List.splitOnP_append_cons _ _ h, List.filter_append]
  rfl

theorem spacedWords_cons (cs : List Char) (h : isSpace c = true) :
    spacedWords (c :: cs) = spacedWords cs :=
  spacedWords_append_cons [] cs h

theorem IsWord.not_isSpace_head (h : IsWord w) : ∀ c ∈ w.head?, isSpace c = false :=
  fun c hc => h.not_isSpace c (List.mem_of_mem_head? hc)

/-- A word is not white space only. -/
theorem IsWord.not_forall_isSpace (h : IsWord w) : ¬ ∀ c ∈ w, isSpace c = true := by
  intro hspaces
  obtain ⟨c, hc⟩ := List.exists_mem_of_ne_nil w h.ne_nil
  simpa [hspaces c hc] using h.not_isSpace c hc

theorem IsWord.spacedWords_eq (h : IsWord w) : spacedWords w = [w] := by
  rw [spacedWords, List.splitOnP_eq_singleton h.not_isSpace]
  simp [h.ne_nil]

theorem IsWord.spacedWords_append_cons (h : IsWord w) (hc : isSpace c = true) (cs : List Char) :
    spacedWords (w ++ c :: cs) = w :: spacedWords cs := by
  rw [Text.spacedWords_append_cons _ _ hc, h.spacedWords_eq]
  rfl

/-- **Induction along the words of a text**: it is empty, it starts with white space, it is a word, or
it is a word with white space and more after it. -/
theorem induct_words {motive : List Char → Prop} (nil : motive [])
    (space : ∀ c cs, isSpace c = true → motive cs → motive (c :: cs))
    (word : ∀ w, IsWord w → motive w)
    (before : ∀ w c cs, IsWord w → isSpace c = true → motive cs → motive (w ++ c :: cs))
    (cs : List Char) : motive cs := by
  induction hlength : cs.length using Nat.strong_induction_on generalizing cs with
  | _ length ih =>
    subst hlength
    cases cs with
    | nil => exact nil
    | cons c cs =>
      cases hc : isSpace c with
      | true => exact space c cs hc (ih cs.length (Nat.lt_succ_self _) cs rfl)
      | false =>
        -- the longest start without white space is the first word
        obtain ⟨w, rest, heq, hw, hrest⟩ : ∃ w rest, cs = w ++ rest ∧
            (∀ d ∈ w, isSpace d = false) ∧ ∀ d ∈ rest.head?, isSpace d = true := by
          refine ⟨cs.takeWhile (!isSpace ·), cs.dropWhile (!isSpace ·),
            List.takeWhile_append_dropWhile.symm, ?_, ?_⟩
          · intro d hd
            simpa using List.mem_takeWhile_imp hd
          · intro d hd
            have hnot := List.head?_dropWhile_not (!isSpace ·) cs
            rw [Option.mem_def.mp hd] at hnot
            simpa using hnot
        have hword : IsWord (c :: w) :=
          ⟨List.cons_ne_nil c w, List.forall_mem_cons.mpr ⟨hc, hw⟩⟩
        subst heq
        cases rest with
        | nil =>
          rw [List.append_nil]
          exact word (c :: w) hword
        | cons d rest =>
          have hlt : rest.length < (c :: (w ++ d :: rest)).length := by
            simp only [List.length_cons, List.length_append]
            omega
          exact before (c :: w) d rest hword (hrest d rfl) (ih rest.length hlt rest rfl)

/-- The words of a text are words. -/
theorem isWord_of_mem_spacedWords (cs : List Char) : ∀ w ∈ spacedWords cs, IsWord w := by
  induction cs using induct_words with
  | nil => exact List.forall_mem_nil _
  | space c cs hc ih => rwa [spacedWords_cons cs hc]
  | word w hw =>
    rw [hw.spacedWords_eq]
    exact List.forall_mem_singleton.mpr hw
  | before w c cs hw hc ih =>
    rw [hw.spacedWords_append_cons hc]
    exact List.forall_mem_cons.mpr ⟨hw, ih⟩

/-- Only white space has no words. -/
theorem spacedWords_eq_nil_iff (cs : List Char) :
    spacedWords cs = [] ↔ ∀ c ∈ cs, isSpace c = true := by
  induction cs using induct_words with
  | nil => simp [spacedWords_nil]
  | space c cs hc ih => simp [spacedWords_cons cs hc, ih, hc]
  | word w hw => simpa [hw.spacedWords_eq] using hw.not_forall_isSpace
  | before w c cs hw hc ih =>
    have hnot : ¬ ∀ d ∈ w ++ c :: cs, isSpace d = true :=
      fun h => hw.not_forall_isSpace (List.forall_mem_append.mp h).1
    simpa [hw.spacedWords_append_cons hc] using hnot

/-! ### Trimming -/

/-- What is dropped at the end has the property throughout, and the last character that stays does
not have it. -/
theorem exists_dropEndWhile (p : Char → Bool) (cs : List Char) :
    ∃ dropped, cs = dropEndWhile p cs ++ dropped ∧ (∀ c ∈ dropped, p c = true) ∧
      ∀ c ∈ (dropEndWhile p cs).getLast?, p c = false := by
  refine ⟨cs.rtakeWhile p, List.rdropWhile_append_rtakeWhile.symm, ?_, ?_⟩
  · intro c hc
    exact List.mem_rtakeWhile_imp hc
  · intro c hc
    have hne : cs.rdropWhile p ≠ [] := by
      intro hnil
      rw [dropEndWhile, ← List.rdropWhile, hnil] at hc
      cases hc
    have hlast := List.rdropWhile_last_not p cs hne
    obtain rfl : (cs.rdropWhile p).getLast hne = c :=
      Option.some.inj ((List.getLast?_eq_some_getLast hne).symm.trans hc)
    exact Bool.eq_false_iff.mpr hlast

/-- Trimming the end takes white space away there, and leaves none. -/
theorem exists_trimEnd (cs : List Char) :
    ∃ spaces, cs = trimEnd cs ++ spaces ∧ (∀ c ∈ spaces, isSpace c = true) ∧
      ∀ c ∈ (trimEnd cs).getLast?, isSpace c = false :=
  exists_dropEndWhile isSpace cs

/-- Trimming takes white space away at both ends, and leaves none there. -/
theorem exists_trim (cs : List Char) :
    ∃ front back, cs = front ++ trim cs ++ back ∧ (∀ c ∈ front, isSpace c = true) ∧
      (∀ c ∈ back, isSpace c = true) ∧ (∀ c ∈ (trim cs).head?, isSpace c = false) ∧
      ∀ c ∈ (trim cs).getLast?, isSpace c = false := by
  obtain ⟨back, hback, hspaces, hlast⟩ := exists_trimEnd (cs.dropWhile isSpace)
  refine ⟨cs.takeWhile isSpace, back, ?_, ?_, hspaces, ?_, hlast⟩
  · rw [List.append_assoc]
    exact List.takeWhile_append_dropWhile.symm.trans (congrArg _ hback)
  · intro c hc
    exact List.mem_takeWhile_imp hc
  · intro c hc
    -- the first character that stays is the first one that was not dropped in front
    have hhead : (cs.dropWhile isSpace).head? = some c := by
      rw [hback]
      exact List.mem_head?_append_of_mem_head? hc
    have hnot := List.head?_dropWhile_not isSpace cs
    rw [hhead] at hnot
    simpa using hnot

/-- Trimming keeps the words. -/
theorem spacedWords_trim (cs : List Char) : spacedWords (trim cs) = spacedWords cs := by
  obtain ⟨front, back, heq, hfront, hback, -, -⟩ := exists_trim cs
  have hafter : spacedWords (trim cs ++ back) = spacedWords (trim cs) := by
    cases back with
    | nil => rw [List.append_nil]
    | cons c back =>
      obtain ⟨hc, hback⟩ := List.forall_mem_cons.mp hback
      rw [spacedWords_append_cons _ _ hc, (spacedWords_eq_nil_iff back).mpr hback, List.append_nil]
  have hbefore : ∀ ds, spacedWords (front ++ ds) = spacedWords ds := by
    intro ds
    clear heq
    induction front with
    | nil => rfl
    | cons c front ih =>
      obtain ⟨hc, hfront⟩ := List.forall_mem_cons.mp hfront
      rw [List.cons_append, spacedWords_cons _ hc, ih hfront]
  conv_rhs => rw [heq, List.append_assoc, hbefore, hafter]

/-! ### Collapsing -/

/-- A start without white space stays as it is. -/
theorem squeeze_append (cs : List Char) (h : ∀ c ∈ w, isSpace c = false) :
    squeeze false (w ++ cs) = w ++ squeeze false cs := by
  induction w with
  | nil => rfl
  | cons c w ih =>
    obtain ⟨hc, hw⟩ := List.forall_mem_cons.mp h
    simp [squeeze, hc, ih hw]

/-- Without white space in front it makes no difference whether a run goes on. -/
theorem squeeze_true (h : ∀ c ∈ cs.head?, isSpace c = false) :
    squeeze true cs = squeeze false cs := by
  cases cs with
  | nil => rfl
  | cons c cs =>
    have hc : isSpace c = false := h c rfl
    simp [squeeze, hc]

/-- White space is not the last character of a text that does not end in it. -/
theorem exists_last_of_append_cons (ds : List Char) (hc : isSpace c = true)
    (h : ∀ d ∈ (ds ++ c :: cs).getLast?, isSpace d = false) :
    ∃ d, cs.getLast? = some d ∧ isSpace d = false := by
  rw [List.getLast?_append_cons, List.getLast?_cons] at h
  cases hlast : cs.getLast? with
  | none =>
    have hnot : isSpace c = false := h c (by rw [hlast]; rfl)
    rw [hc] at hnot
    cases hnot
  | some d => exact ⟨d, rfl, h d (by rw [hlast]; rfl)⟩

/-- **Squeezed texts** are their words with single spaces between them, where no white space is left at
the end. -/
theorem squeeze_eq (cs : List Char) (h : ∀ c ∈ cs.getLast?, isSpace c = false) :
    squeeze true cs = [' '].intercalate (spacedWords cs) := by
  induction cs using induct_words with
  | nil => rfl
  | space c cs hc ih =>
    obtain ⟨d, hlast, hd⟩ := exists_last_of_append_cons [] hc h
    have hsqueeze : squeeze true (c :: cs) = squeeze true cs := by simp [squeeze, hc]
    rw [hsqueeze, spacedWords_cons _ hc, ih (by simpa [hlast] using hd)]
  | word w hw =>
    have hsqueeze := squeeze_append [] hw.not_isSpace
    rw [squeeze, List.append_nil] at hsqueeze
    rw [squeeze_true hw.not_isSpace_head, hsqueeze, hw.spacedWords_eq]
    simp
  | before w c cs hw hc ih =>
    obtain ⟨d, hlast, hd⟩ := exists_last_of_append_cons w hc h
    have hsqueeze : squeeze false (c :: cs) = ' ' :: squeeze true cs := by simp [squeeze, hc]
    have hhead : ∀ d ∈ (w ++ c :: cs).head?, isSpace d = false := by
      rw [List.head?_append_of_ne_nil _ hw.ne_nil]
      exact hw.not_isSpace_head
    -- there is another word, so the space stands between two
    obtain ⟨v, vs, hwords⟩ : ∃ v vs, spacedWords cs = v :: vs := by
      refine List.exists_cons_of_ne_nil ?_
      intro hnil
      have hspace := (spacedWords_eq_nil_iff cs).mp hnil d (List.mem_of_getLast? hlast)
      rw [hd] at hspace
      cases hspace
    rw [squeeze_true hhead, squeeze_append _ hw.not_isSpace, hsqueeze,
      ih (by simpa [hlast] using hd), hw.spacedWords_append_cons hc, hwords,
      List.intercalate_cons_cons, List.append_assoc, List.singleton_append]

/-- Joining texts is joining their characters. -/
theorem join_map_ofList (ws : List (List Char)) :
    join " " (ws.map String.ofList) = String.ofList ([' '].intercalate ws) := by
  induction ws with
  | nil => rfl
  | cons w ws ih =>
    cases ws with
    | nil => simp [join]
    | cons v ws =>
      rw [List.intercalate_cons_cons, String.ofList_append, String.ofList_append, ← ih]
      rfl

theorem toList_collapse (s : String) :
    (collapse s).toList = [' '].intercalate (spacedWords s.toList) := by
  obtain ⟨-, -, -, -, -, hhead, hlast⟩ := exists_trim s.toList
  rw [collapse, String.toList_ofList, ← squeeze_true hhead, squeeze_eq _ hlast, spacedWords_trim]

/-- **A collapsed text** is its words with single spaces between them. -/
theorem collapse_eq (s : String) :
    collapse s = join " " ((spacedWords s.toList).map String.ofList) := by
  rw [join_map_ofList, ← toList_collapse, String.ofList_toList]

end ApiScaffold.Text
