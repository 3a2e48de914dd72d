import ApiScaffold.Proofs.Text.Words
import Mathlib.Data.List.Chain

/-!
# Cutting a text on a word boundary

`Text.truncate` leaves a short text alone and cuts a long one. What a cut may keep is said by
`Text.IsCut`: a start of the text of bounded length that ends in no white space and splits no word,
unless the text has only one word up to the bound. It loses little: white space, and one word at most.
`isCut_keepWords` shows this of every cut, with the text taken apart at the bound.

Texts on one line with single spaces, `Text.IsSpaced`, stay such when they are cut and when the dots
come after them. So a summary is one.
-/

namespace ApiScaffold.Text

open Unicode

variable {c : Char} {cs ds w : List Char}

/-! ### Cutting -/

/-- **One word** after some white space. -/
def IsOneWord (cs : List Char) : Prop :=
  ∃ spaces word, cs = spaces ++ word ∧ (∀ c ∈ spaces, isSpace c = true) ∧ IsWord word

/-- **A word is split at a place** of a text that has letters or numbers on both sides of it. -/
def SplitsAt (text : List Char) (n : Nat) : Prop :=
  ∃ a b, (text.take n).getLast? = some a ∧ isAlphanumeric a = true ∧
    text[n]? = some b ∧ isAlphanumeric b = true

/-- **What a cut of a text may keep**: a start of it, no longer than the limit, that ends in no white
space. It splits no word, since there is nothing to split or one of the two characters at the cut is
neither a letter nor a number; or else it is one word that takes all the room there is. Up to the
limit only white space is lost, and the last word if the limit splits it and something stands before
it. -/
structure IsCut (text : List Char) (limit : Nat) (kept : List Char) : Prop where
  start : kept <+: text
  length_le : kept.length ≤ limit
  last : ∀ c ∈ kept.getLast?, isSpace c = false
  boundary : kept = [] ∨ (∃ c, kept.getLast? = some c ∧ isAlphanumeric c = false) ∨
    (∃ c, text[kept.length]? = some c ∧ isAlphanumeric c = false) ∨
    (kept = text.take limit ∧ IsOneWord kept)
  lost : ∃ spaces word, text.take limit = kept ++ spaces ++ word ∧
    (∀ c ∈ spaces, isSpace c = true) ∧
    (word ≠ [] → kept ≠ [] ∧ IsWord word ∧ SplitsAt text limit)

variable {head rest kept spaces word : List Char} {next : Char}

/-- A cut splits a word exactly if it does so in the text. -/
theorem splitsAt_iff :
    SplitsAt (head ++ next :: rest) head.length ↔ splitsWord head (some next) = true := by
  simp only [splitsWord, Option.any_some, Bool.and_eq_true, Option.any_eq_true]
  constructor
  · rintro ⟨a, b, ha, hletter, hb, hnext⟩
    obtain rfl : next = b := by simpa using hb
    exact ⟨hnext, a, by simpa using ha, hletter⟩
  · rintro ⟨hnext, a, ha, hletter⟩
    exact ⟨a, next, by simpa using ha, hletter, by simp, hnext⟩

/-- A cut before white space splits no word. -/
theorem IsCut.of_space (hhead : head = kept ++ c :: spaces ++ word)
    (hspaces : ∀ d ∈ c :: spaces, isSpace d = true)
    (hlast : ∀ d ∈ kept.getLast?, isSpace d = false)
    (hword : word ≠ [] → kept ≠ [] ∧ IsWord word ∧ SplitsAt (head ++ rest) head.length) :
    IsCut (head ++ rest) head.length kept where
  start := by simp [hhead]
  length_le := by simp [hhead]
  last := hlast
  boundary := by
    have hc := isAlphanumeric_of_isSpace (hspaces c (List.mem_cons_self ..))
    exact .inr (.inr (.inl ⟨c, by simp [hhead], hc⟩))
  lost := ⟨c :: spaces, word, by rw [List.take_left, hhead], hspaces, hword⟩

/-- A cut at the bound itself, where this splits no word. -/
theorem IsCut.of_not_splitsAt (hsplits : ¬ SplitsAt (head ++ next :: rest) head.length)
    (hlast : ∀ d ∈ head.getLast?, isSpace d = false) :
    IsCut (head ++ next :: rest) head.length head where
  start := List.prefix_append _ _
  length_le := Nat.le_refl _
  last := hlast
  boundary := by
    rcases hhead : head.getLast? with _ | c
    · exact .inl (List.getLast?_eq_none_iff.mp hhead)
    · refine .inr ?_
      cases hc : isAlphanumeric c with
      | false => exact .inl ⟨c, rfl, hc⟩
      | true =>
        refine .inr (.inl ⟨next, by simp, Bool.eq_false_iff.mpr ?_⟩)
        intro hnext
        exact hsplits ⟨c, next, by simpa using hhead, hc, by simp, hnext⟩
  lost := ⟨[], [], by simp, by simp, by simp⟩

/-- A cut at the bound, where one word takes all the room. -/
theorem IsCut.of_isOneWord (h : IsOneWord head) : IsCut (head ++ rest) head.length head where
  start := List.prefix_append _ _
  length_le := Nat.le_refl _
  last := by
    obtain ⟨spaces, word, rfl, -, hword⟩ := h
    rw [List.getLast?_append_of_ne_nil _ hword.ne_nil]
    intro d hd
    exact hword.not_isSpace d (List.mem_of_getLast? hd)
  boundary := .inr (.inr (.inr ⟨by simp, h⟩))
  lost := ⟨[], [], by simp, by simp, by simp⟩

/-- A cut that splits no word only drops white space before the bound. -/
theorem isCut_trimEnd (hsplits : ¬ SplitsAt (head ++ next :: rest) head.length) :
    IsCut (head ++ next :: rest) head.length (trimEnd head) := by
  obtain ⟨spaces, hhead, hspaces, hlast⟩ := exists_trimEnd head
  cases spaces with
  | nil =>
    rw [List.append_nil] at hhead
    rw [← hhead] at hlast ⊢
    exact .of_not_splitsAt hsplits hlast
  | cons d spaces =>
    have hcut : head = trimEnd head ++ d :: spaces ++ [] := by rwa [List.append_nil]
    exact .of_space hcut hspaces hlast (by simp)

/-- A cut that would split a word goes back to the white space before the word, if there is a word
before that. -/
theorem isCut_front {front : List Char} (hsplits : SplitsAt (head ++ rest) head.length)
    (hhead : head = front ++ word) (hword : IsWord word)
    (hfront : ∀ d ∈ front.getLast?, isSpace d = true) :
    IsCut (head ++ rest) head.length (if (trimEnd front).isEmpty then head else trimEnd front) := by
  obtain ⟨spaces, heq, hspaces, hlast⟩ := exists_trimEnd front
  generalize trimEnd front = kept at heq hlast ⊢
  split_ifs with hempty
  · rw [List.isEmpty_iff.mp hempty, List.nil_append] at heq
    exact .of_isOneWord ⟨front, word, hhead, heq ▸ hspaces, hword⟩
  · have hne : kept ≠ [] := mt List.isEmpty_iff.mpr hempty
    cases spaces with
    | nil =>
      -- the last character of `front` would be white space and would not
      rw [List.append_nil] at heq
      obtain ⟨d, hd⟩ := Option.isSome_iff_exists.mp (List.getLast?_isSome.mpr hne)
      have hspace := hfront d (heq ▸ hd)
      rw [hlast d hd] at hspace
      cases hspace
    | cons d spaces =>
      rw [heq] at hhead
      exact .of_space hhead hspaces hlast fun _ => ⟨hne, hword, hsplits⟩

/-- **Every cut** keeps what it may. The text is taken apart at the bound. -/
theorem isCut_keepWords (head rest : List Char) (next : Char) :
    IsCut (head ++ next :: rest) head.length (keepWords head (some next)) := by
  rw [keepWords]
  split_ifs with hcut
  · have hsplits : SplitsAt (head ++ next :: rest) head.length := splitsAt_iff.mpr hcut
    obtain ⟨word, hhead, hword, hfront⟩ := exists_dropEndWhile (fun c => !isSpace c) head
    refine isCut_front hsplits hhead ⟨?_, by simpa using hword⟩ (by simpa using hfront)
    rintro rfl
    -- without a word before the bound, white space would be a letter or number
    obtain ⟨a, -, ha, hletter, -⟩ := hsplits
    rw [List.append_nil] at hhead
    rw [List.take_left, hhead] at ha
    have hspace : isSpace a = true := by simpa using hfront a ha
    rw [isAlphanumeric_of_isSpace hspace] at hletter
    cases hletter
  · exact isCut_trimEnd (mt splitsAt_iff.mp hcut)

/-- **Short texts** stay as they are, and get no dots. -/
theorem truncate_of_length_le {s : String} {limit : Nat} (h : s.length ≤ limit) :
    truncate s limit = s := by
  rw [← String.length_toList] at h
  exact if_pos h

/-- **Long texts** are cut, with three dots after what the cut keeps. -/
theorem exists_truncate_eq {s : String} {limit : Nat} (h : limit < s.length) :
    ∃ kept, truncate s limit = String.ofList kept ++ "..." ∧ IsCut s.toList limit kept := by
  have hlt : limit < s.toList.length := by rwa [String.length_toList]
  have htext : s.toList = s.toList.take limit ++ s.toList[limit] :: s.toList.drop (limit + 1) := by
    rw [List.getElem_cons_drop, List.take_append_drop]
  have hlimit : (s.toList.take limit).length = limit := List.length_take_of_le hlt.le
  refine ⟨_, by rw [truncate, if_neg (Nat.not_le.mpr hlt)], ?_⟩
  have hcut := isCut_keepWords (s.toList.take limit) (s.toList.drop (limit + 1)) s.toList[limit]
  rwa [← htext, hlimit, ← List.getElem?_eq_getElem hlt] at hcut

/-! ### One line -/

/-- **Texts on one line with single spaces**: a single space is the only white space, and stands
between two other characters. -/
structure IsSpaced (cs : List Char) : Prop where
  eq_space : ∀ c ∈ cs, isSpace c = true → c = ' '
  apart : cs.IsChain fun c d => ¬ (isSpace c = true ∧ isSpace d = true)
  head : ∀ c ∈ cs.head?, isSpace c = false
  last : ∀ c ∈ cs.getLast?, isSpace c = false

namespace IsSpaced

theorem nil : IsSpaced [] where
  eq_space := List.forall_mem_nil _
  apart := .nil
  head := by simp
  last := by simp

theorem of_isWord (h : IsWord w) : IsSpaced w where
  eq_space := by
    intro c hc hspace
    rw [h.not_isSpace c hc] at hspace
    cases hspace
  apart := by
    refine (List.pairwise_of_forall_mem_list ?_).isChain
    intro c hc d _ hboth
    rw [h.not_isSpace c hc] at hboth
    cases hboth.1
  head := h.not_isSpace_head
  last := fun c hc => h.not_isSpace c (List.mem_of_getLast? hc)

/-- Texts on one line may be put together. -/
theorem append (h : IsSpaced cs) (h' : IsSpaced ds) : IsSpaced (cs ++ ds) where
  eq_space := List.forall_mem_append.mpr ⟨h.eq_space, h'.eq_space⟩
  apart := by
    refine h.apart.append h'.apart ?_
    intro c hc d _ hboth
    rw [h.last c hc] at hboth
    cases hboth.1
  head := by
    cases cs with
    | nil => exact h'.head
    | cons c cs => exact h.head
  last := by
    rw [List.getLast?_append]
    intro c hc
    rcases Option.or_eq_some_iff.mp hc with hc | ⟨-, hc⟩
    · exact h'.last c hc
    · exact h.last c hc

/-- A space may stand between two texts on one line. -/
theorem append_space (h : IsSpaced cs) (h' : IsSpaced ds) (hcs : cs ≠ []) (hds : ds ≠ []) :
    IsSpaced (cs ++ ' ' :: ds) where
  eq_space := List.forall_mem_append.mpr
    ⟨h.eq_space, List.forall_mem_cons.mpr ⟨fun _ => rfl, h'.eq_space⟩⟩
  apart := by
    refine h.apart.append (List.isChain_cons.mpr ⟨?_, h'.apart⟩) ?_
    · intro d hd hboth
      rw [h'.head d hd] at hboth
      cases hboth.2
    · intro c hc d _ hboth
      rw [h.last c hc] at hboth
      cases hboth.1
  head := by
    rw [List.head?_append_of_ne_nil _ hcs]
    exact h.head
  last := by
    obtain ⟨d, ds, rfl⟩ := List.exists_cons_of_ne_nil hds
    rw [List.getLast?_append_cons, List.getLast?_cons_cons]
    exact h'.last

/-- **What a cut keeps** of a text on one line is on one line. -/
theorem of_isCut {limit : Nat} (h : IsSpaced cs) (hcut : IsCut cs limit ds) : IsSpaced ds where
  eq_space := fun c hc => h.eq_space c (hcut.start.subset hc)
  apart := by
    obtain ⟨rest, rfl⟩ := hcut.start
    exact h.apart.left_of_append
  head := by
    obtain ⟨rest, rfl⟩ := hcut.start
    cases ds with
    | nil => simp
    | cons d ds => exact h.head
  last := hcut.last

/-- Words with single spaces between them. -/
theorem intercalate {ws : List (List Char)} (h : ∀ w ∈ ws, IsWord w) :
    IsSpaced ([' '].intercalate ws) := by
  induction ws with
  | nil => exact nil
  | cons w ws ih =>
    obtain ⟨hw, hws⟩ := List.forall_mem_cons.mp h
    cases ws with
    | nil =>
      rw [List.intercalate_singleton]
      exact of_isWord hw
    | cons v ws =>
      have hne : [' '].intercalate (v :: ws) ≠ [] := by
        have hv := (hws v (List.mem_cons_self ..)).ne_nil
        cases ws <;> simp [List.intercalate_cons_cons, hv]
      rw [List.intercalate_cons_cons, List.append_assoc]
      exact (of_isWord hw).append_space (ih hws) hw.ne_nil hne

/-- The dots after a cut are a word. -/
theorem isWord_dots : IsWord "...".toList where
  ne_nil := by decide
  not_isSpace := by
    have hdots : ∀ c, c ∈ "...".toList → c = '.' := by simp
    intro c hc
    rw [hdots c hc]
    rfl

/-- Collapsed texts are on one line with single spaces. -/
theorem of_collapse (s : String) : IsSpaced (collapse s).toList := by
  rw [toList_collapse]
  exact intercalate (isWord_of_mem_spacedWords _)

/-- **Truncated texts** stay on one line: a cut keeps such a text, and the dots bring no white space. -/
theorem of_truncate {s : String} (h : IsSpaced s.toList) (limit : Nat) :
    IsSpaced (truncate s limit).toList := by
  rcases Nat.lt_or_ge limit s.length with hlt | hle
  · obtain ⟨kept, heq, hcut⟩ := exists_truncate_eq hlt
    rw [heq, String.toList_append, String.toList_ofList]
    exact (h.of_isCut hcut).append (of_isWord isWord_dots)
  · rwa [truncate_of_length_le hle]

end IsSpaced

/-- **Truncated texts are bounded**: the dots take three characters more than the limit. -/
theorem length_truncate_le (s : String) (limit : Nat) : (truncate s limit).length ≤ limit + 3 := by
  rcases Nat.lt_or_ge limit s.length with hlt | hle
  · obtain ⟨kept, heq, hcut⟩ := exists_truncate_eq hlt
    have hkept := hcut.length_le
    have hdots : "...".length = 3 := rfl
    rw [heq, String.length_append, String.length_ofList, hdots]
    omega
  · rw [truncate_of_length_le hle]
    omega

/-- A text is put on one line, and cut before a word that does not fit. -/
example : truncate (collapse " 200  the pet,\n\tif it exists ") 17 = "200 the pet, if..." := by
  decide +kernel

end ApiScaffold.Text
