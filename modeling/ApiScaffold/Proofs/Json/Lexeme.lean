import ApiScaffold.Json.Token
import ApiScaffold.Proofs.Text.Lines

/-!
# JSON text as it is spelled

Here a JSON text is taken apart without being read: into marks, words, and strings as they stand between their
quotes (`Lexeme.scan?`). White space counts for nothing between them, so spaces may be put after any line feed of
a text without a change to what it is taken apart into (`scan?_afterFeeds`), and a line feed in a string makes a
text malformed, so in a text that is well-formed no line feed stands in a string (`leavesOutside_of_scan?`).

`Layout` says which texts are put together of given lexemes, on one line and on several. A text that is laid out
is taken apart into its lexemes (`Layout.scan?`), and its lines are full (`Layout.isLined`).
-/

namespace ApiScaffold.Json

/-- **A token as it is spelled**: a mark, a word, or what stands between the quotes of a string. -/
inductive Lexeme where
  | mark (c : Char)
  | word (cs : List Char)
  | string (cs : List Char)
  deriving DecidableEq, Repr

namespace Lexeme

/-- **Where a reader stands**: between lexemes, in a word, in a string, or behind a backslash in one. What was
read of the lexeme is reversed. -/
inductive Place where
  | between
  | word (chars : List Char)
  | string (chars : List Char)
  | escape (chars : List Char)
  deriving DecidableEq, Repr

/-- Whether no string is open. -/
def Place.isOutside : Place → Bool
  | .between => true
  | .word _ => true
  | .string _ => false
  | .escape _ => false

/-- Whether a character is a mark. -/
def isMark (c : Char) : Bool := (Token.punctuation? c).isSome

/-- One character where a lexeme may start. -/
def start (c : Char) (done : List Lexeme) : Place × List Lexeme :=
  if Token.isSpace c then (.between, done)
  else if c = '"' then (.string [], done)
  else if isMark c then (.between, .mark c :: done)
  else (.word [c], done)

/-- **One character**, with the lexemes so far in reverse. Strings hold no control characters. -/
def step : Place × List Lexeme → Char → Option (Place × List Lexeme)
  | (.between, done), c => some (start c done)
  | (.word chars, done), c =>
    if Token.endsWord c then some (start c (.word chars.reverse :: done))
    else some (.word (c :: chars), done)
  | (.string chars, done), c =>
    if c = '"' then some (.between, .string chars.reverse :: done)
    else if c.toNat < 32 then none
    else if c = '\\' then some (.escape (c :: chars), done)
    else some (.string (c :: chars), done)
  | (.escape chars, done), c => if c.toNat < 32 then none else some (.string (c :: chars), done)

/-- The lexemes at the end of a text; a string that is still open has none. -/
def finish? : Place × List Lexeme → Option (List Lexeme)
  | (.between, done) => some done.reverse
  | (.word chars, done) => some (.word chars.reverse :: done).reverse
  | _ => none

/-- **Lexemes of a text.** -/
def scan? (cs : List Char) : Option (List Lexeme) := (cs.foldlM step (.between, [])).bind finish?

variable {cs more : List Char} {ls us : List Lexeme} {c : Char}

/-! ### Line feeds -/

theorem step_space (done : List Lexeme) : step (.between, done) ' ' = some (.between, done) := rfl

/-- **After a line feed** no lexeme goes on, if the text can be read on at all. -/
theorem step_feed (s : Place × List Lexeme) :
    (s.1.isOutside = true ∧ ∃ done, step s '\n' = some (.between, done)) ∨ step s '\n' = none := by
  obtain ⟨place, done⟩ := s
  cases place with
  | between => exact .inl ⟨rfl, done, rfl⟩
  | word chars => exact .inl ⟨rfl, .word chars.reverse :: done, rfl⟩
  | string chars => exact .inr rfl
  | escape chars => exact .inr rfl

theorem foldlM_step_spaces (n : Nat) (done : List Lexeme) :
    (List.replicate n ' ').foldlM step (.between, done) = some (.between, done) := by
  induction n with
  | zero => rfl
  | succ n ih =>
    rw [List.replicate_succ, List.foldlM_cons, step_space]
    exact ih

/-- Spaces after line feeds make no difference to where a reader comes. -/
theorem foldlM_step_afterFeeds (n : Nat) (s : Place × List Lexeme) (cs : List Char) :
    (Text.afterFeeds (List.replicate n ' ') cs).foldlM step s = cs.foldlM step s := by
  induction cs generalizing s with
  | nil => rfl
  | cons c cs ih =>
    by_cases hc : c = '\n'
    · subst hc
      rw [Text.afterFeeds_cons_feed, List.foldlM_cons, List.foldlM_cons]
      rcases step_feed s with ⟨-, done, hstep⟩ | hstep
      · simp only [hstep, List.foldlM_append, foldlM_step_spaces, Option.bind_eq_bind, Option.bind_some]
        exact ih _
      · simp [hstep]
    · have hkept : Text.afterFeeds (List.replicate n ' ') (c :: cs) =
          c :: Text.afterFeeds (List.replicate n ' ') cs := by
        simp [Text.afterFeeds, hc]
      rw [hkept, List.foldlM_cons, List.foldlM_cons]
      simp only [ih]

/-- **Spaces after line feeds change no lexeme**, in no text. A feed is never inside a string, because a
scan that meets one there fails. -/
theorem scan?_afterFeeds (n : Nat) (cs : List Char) :
    scan? (Text.afterFeeds (List.replicate n ' ') cs) = scan? cs := by
  rw [scan?, scan?, foldlM_step_afterFeeds]

/-- **Texts that leave no string open**: what follows stands outside of strings. -/
def LeavesOutside (cs : List Char) : Prop :=
  ∃ s, cs.foldlM step (.between, []) = some s ∧ s.1.isOutside = true

/-- **No line feed stands in a string** of a text that can be taken apart. -/
theorem leavesOutside_of_scan? {before after : List Char} (h : scan? cs = some ls)
    (hcs : cs = before ++ '\n' :: after) : LeavesOutside before := by
  obtain ⟨last, hlast, -⟩ := Option.bind_eq_some_iff.mp h
  rw [hcs, List.foldlM_append] at hlast
  obtain ⟨s, hs, hrest⟩ := Option.bind_eq_some_iff.mp hlast
  refine ⟨s, hs, ?_⟩
  rcases step_feed s with ⟨houtside, -⟩ | hnone
  · exact houtside
  · rw [List.foldlM_cons, hnone] at hrest
    cases hrest

/-! ### Texts and their lexemes -/

/-- **Where the lexemes are known**: between two of them, or in a word. -/
inductive Settles : Place × List Lexeme → List Lexeme → Prop
  | between (ls : List Lexeme) : Settles (.between, ls) ls
  | word (chars : List Char) (ls : List Lexeme) : Settles (.word chars, ls) (.word chars.reverse :: ls)

/-- Where a scan has settled, the lexemes are known, even if a word is still open. -/
theorem Settles.finish? {s : Place × List Lexeme} (h : Settles s ls) :
    Lexeme.finish? s = some ls.reverse := by
  cases h <;> rfl

/-- A character that ends words goes on as between lexemes. -/
theorem Settles.step {s : Place × List Lexeme} (h : Settles s ls) (hc : Token.endsWord c = true) :
    Lexeme.step s c = some (start c ls) := by
  cases h with
  | between => rfl
  | word chars done => rw [Lexeme.step, if_pos hc]

/-- **Lexemes that a text adds**, whatever lexemes came before. -/
def Adds (cs : List Char) (ls : List Lexeme) : Prop :=
  ∀ done, ∃ s, cs.foldlM step (.between, done) = some s ∧ Settles s (ls.reverse ++ done)

/-- The lexemes of a whole text. -/
theorem Adds.scan? (h : Adds cs ls) : Lexeme.scan? cs = some ls := by
  obtain ⟨s, hs, hsettles⟩ := h []
  rw [Lexeme.scan?, hs, Option.bind_some, hsettles.finish?, List.append_nil, List.reverse_reverse]

/-- A text may follow that starts with a character which ends words. -/
theorem Adds.append (h : Adds cs ls) (hc : Token.endsWord c = true) (hmore : Adds (c :: more) us) :
    Adds (cs ++ c :: more) (ls ++ us) := by
  intro done
  obtain ⟨s, hs, hsettles⟩ := h done
  obtain ⟨s', hs', hsettles'⟩ := hmore (ls.reverse ++ done)
  refine ⟨s', ?_, ?_⟩
  · rw [List.foldlM_append, hs, Option.bind_eq_bind, Option.bind_some, List.foldlM_cons, hsettles.step hc]
    exact hs'
  · rw [List.reverse_append, List.append_assoc]
    exact hsettles'

/-- White space in front changes nothing. -/
theorem Adds.space_cons (h : Adds cs ls) (hc : Token.isSpace c = true) : Adds (c :: cs) ls := by
  intro done
  obtain ⟨s, hs, hsettles⟩ := h done
  refine ⟨s, ?_, hsettles⟩
  rw [List.foldlM_cons, step, start, if_pos hc]
  exact hs

/-- This is why a line may be moved to any depth. -/
theorem Adds.spaces_append (h : Adds cs ls) (n : Nat) : Adds (List.replicate n ' ' ++ cs) ls := by
  induction n with
  | zero => exact h
  | succ n ih => exact ih.space_cons (by decide)

/-- A mark is a lexeme on its own. -/
theorem start_mark (h : isMark c = true) (done : List Lexeme) :
    start c done = (.between, .mark c :: done) := by
  have hspace : Token.isSpace c = false := by
    by_contra hspace
    simp only [Token.isSpace, Bool.not_eq_false, Bool.or_eq_true, decide_eq_true_eq] at hspace
    rcases hspace with ((rfl | rfl) | rfl) | rfl <;> exact absurd h (by decide)
  have hquote : c ≠ '"' := by
    rintro rfl
    exact absurd h (by decide)
  rw [start, hspace, if_neg Bool.false_ne_true, if_neg hquote, if_pos h]

/-- A mark in front is one more lexeme. -/
theorem Adds.mark_cons (h : isMark c = true) (hmore : Adds more us) :
    Adds (c :: more) (.mark c :: us) := by
  intro done
  obtain ⟨s, hs, hsettles⟩ := hmore (.mark c :: done)
  refine ⟨s, ?_, ?_⟩
  · rw [List.foldlM_cons, step, start_mark h]
    exact hs
  · simpa using hsettles

theorem adds_nil : Adds [] [] := fun done => ⟨_, rfl, .between done⟩

theorem endsWord_of_isMark (h : isMark c = true) : Token.endsWord c = true := by
  rw [isMark] at h
  simp [Token.endsWord, h]

/-- **A word** is one lexeme, wherever it stands: what comes next decides that it ends, but adds nothing
to it. -/
theorem adds_word (hne : cs ≠ []) (hchars : ∀ c ∈ cs, Token.endsWord c = false) : Adds cs [.word cs] := by
  have hrun (chars : List Char) (done : List Lexeme) (cs : List Char)
      (hchars : ∀ c ∈ cs, Token.endsWord c = false) :
      cs.foldlM step (.word chars, done) = some (.word (cs.reverse ++ chars), done) := by
    induction cs generalizing chars with
    | nil => rfl
    | cons c cs ih =>
      obtain ⟨hc, hcs⟩ := List.forall_mem_cons.mp hchars
      rw [List.foldlM_cons, step, hc, if_neg Bool.false_ne_true]
      simpa using ih (c :: chars) hcs
  intro done
  obtain ⟨c, rest, rfl⟩ := List.exists_cons_of_ne_nil hne
  obtain ⟨hc, hrest⟩ := List.forall_mem_cons.mp hchars
  have hfirst : step (.between, done) c = some (.word [c], done) := by
    simp only [Token.endsWord, Bool.or_eq_false_iff, decide_eq_false_iff_not] at hc
    rw [step, start, isMark, hc.1.1, if_neg Bool.false_ne_true, if_neg hc.1.2, hc.2,
      if_neg Bool.false_ne_true]
  refine ⟨(.word (rest.reverse ++ [c]), done), ?_, ?_⟩
  · rw [List.foldlM_cons, hfirst]
    exact hrun [c] done rest hrest
  · have hword := Settles.word (rest.reverse ++ [c]) done
    simpa using hword

/-- **The inside of a string**: a reader that has come in stays in, and takes all of it. -/
def IsInside (cs : List Char) : Prop :=
  ∀ chars done, cs.foldlM step (.string chars, done) = some (.string (cs.reverse ++ chars), done)

theorem isInside_nil : IsInside [] := fun _ _ => rfl

/-- What stays inside of a string may be put after one another. -/
theorem IsInside.append (h : IsInside cs) (hmore : IsInside more) : IsInside (cs ++ more) := by
  intro chars done
  rw [List.foldlM_append, h, Option.bind_eq_bind, Option.bind_some, hmore]
  simp

/-- **A string** is one lexeme, with the text between its quotes kept raw. What its escapes mean is not
looked at here. -/
theorem adds_string (h : IsInside cs) : Adds ('"' :: cs ++ ['"']) [.string cs] := by
  intro done
  have hend : step (.string (cs.reverse ++ []), done) '"' = some (.between, .string cs :: done) := by
    simp [step]
  refine ⟨(.between, .string cs :: done), ?_, .between _⟩
  rw [List.cons_append, List.foldlM_cons]
  change List.foldlM step (.string [], done) _ = _
  rw [List.foldlM_append, h, Option.bind_eq_bind, Option.bind_some, List.foldlM_cons, hend]
  rfl

/-! ### Laid out texts -/

/-- **A laid out text** and its lexemes. Marks may follow anything, a colon has a space after it, and lines may be
broken between lexemes. -/
inductive Layout : List Char → List Lexeme → Prop
  | mark {c : Char} (h : isMark c = true) : Layout [c] [.mark c]
  | word {cs : List Char} (hne : cs ≠ []) (h : ∀ c ∈ cs, Token.endsWord c = false) : Layout cs [.word cs]
  | string {cs : List Char} (h : IsInside cs) (hcs : ∀ c ∈ cs, 32 ≤ c.toNat) :
      Layout ('"' :: cs ++ ['"']) [.string cs]
  | close {cs : List Char} {ls : List Lexeme} {c : Char} (h : Layout cs ls) (hc : isMark c = true) :
      Layout (cs ++ [c]) (ls ++ [.mark c])
  | colon {cs more : List Char} {ls us : List Lexeme} (h : Layout cs ls) (hmore : Layout more us) :
      Layout (cs ++ ':' :: ' ' :: more) (ls ++ .mark ':' :: us)
  | broken {cs more : List Char} {ls us : List Lexeme} (h : Layout cs ls) (n : Nat)
      (hmore : Layout more us) :
      Layout (cs ++ '\n' :: (List.replicate n ' ' ++ more)) (ls ++ us)

/-- **What is laid out is taken apart again** into the lexemes that it was laid out from. The white
space of a layout stands where the scanner expects nothing. -/
theorem Layout.adds (h : Layout cs ls) : Adds cs ls := by
  induction h with
  | mark h => exact adds_nil.mark_cons h
  | word hne h => exact adds_word hne h
  | string h _ => exact adds_string h
  | close _ hc ih => exact ih.append (endsWord_of_isMark hc) (adds_nil.mark_cons hc)
  | colon _ _ ih ihmore =>
    have hspace : Token.isSpace ' ' = true := by decide
    exact ih.append (by decide) ((ihmore.space_cons hspace).mark_cons (by decide))
  | broken _ n _ ih ihmore =>
    exact ih.append (by decide) ((ihmore.spaces_append n).space_cons (by decide))

/-- **A laid out text** has just the lexemes of its layout. -/
theorem Layout.scan? (h : Layout cs ls) : Lexeme.scan? cs = some ls := h.adds.scan?

theorem isLine_mark (h : isMark c = true) : Text.IsLine [c] := by
  refine Text.isLine_singleton ?_ ?_
  · rintro rfl
    exact absurd h (by decide)
  · rintro rfl
    exact absurd h (by decide)

/-- **The lines of a laid out text are full**: after each line feed there are spaces and then a lexeme,
so no line is empty and none ends in a carriage return. -/
theorem Layout.isLined (h : Layout cs ls) : Text.IsLined cs := by
  induction h with
  | mark h => exact .line (isLine_mark h)
  | word hne h =>
    refine .line ⟨hne, ?_, ?_⟩
    · intro hmem
      exact absurd (h _ hmem) (by decide)
    · intro hmem
      exact absurd (h _ hmem) (by decide)
  | @string cs _ hcs =>
    have hnone : ∀ d : Char, d.toNat < 32 → d ∉ '"' :: cs ++ ['"'] := by
      intro d hd hmem
      simp only [List.cons_append, List.mem_cons, List.mem_append, List.not_mem_nil, or_false] at hmem
      rcases hmem with rfl | hmem | rfl
      · exact absurd hd (by decide)
      · exact absurd (hcs d hmem) (Nat.not_le.mpr hd)
      · exact absurd hd (by decide)
    exact .line ⟨by simp, hnone '\n' (by decide), hnone '\r' (by decide)⟩
  | close _ hc ih => exact ih.append (.line (isLine_mark hc))
  | colon _ _ ih ihmore =>
    have hcolon : Text.IsLine [':', ' '] := ⟨by simp, by decide, by decide⟩
    exact ih.append (hcolon.append_lined ihmore)
  | broken _ n _ ih ihmore => exact ih.append_break (ihmore.spaces_append n)

end Lexeme

end ApiScaffold.Json
