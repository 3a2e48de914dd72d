import ApiScaffold.Proofs.Path.Tokens
import Mathlib.Data.List.Chain
import Mathlib.Data.List.Forall2

/-!
# Canonical tokens

The tokens of a path template spell it out again: texts as they are, and placeholders between runs of
braces (`PathToken.Spells`). Of the runs the tokens only keep that there is one, so writing tokens with
single braces collapses them.

Which lists of tokens can come out of a scan? Those that are canonical (`PathToken.IsCanonical`): no token
could have been read in another way next to its neighbours. Such a list is what its writing is scanned to
(`scan_write`), and every scan gives one (`isCanonical_scan`).
-/

namespace ApiScaffold.PathToken

variable {cs before name rest : List Char} {m n : Nat} {tokens : List PathToken}

/-! ### Spelling -/

/-- **What a token may be read from**: a text from itself, a placeholder from its name between runs of
braces. -/
def Spells : PathToken → List Char → Prop
  | .text cs, piece => piece = cs
  | .placeholder name, piece => ∃ m n, piece = braces '{' m ++ name ++ braces '}' n

theorem exists_spells_textIfAny (cs : List Char) :
    ∃ pieces, List.Forall₂ Spells (textIfAny cs) pieces ∧ pieces.flatten = cs := by
  cases cs with
  | nil => exact ⟨[], .nil, rfl⟩
  | cons c rest => exact ⟨[c :: rest], .cons rfl .nil, by simp⟩

/-- **Nothing is lost in a scan**: a text is its tokens, spelled out one after another. -/
theorem exists_spells_scan (cs : List Char) :
    ∃ pieces, List.Forall₂ Spells (scan cs) pieces ∧ pieces.flatten = cs := by
  induction cs using rounds_induct with
  | plain cs h =>
    rw [scan_of_isPlain h]
    exact exists_spells_textIfAny cs
  | step before m name n rest h ih =>
    obtain ⟨pieces, hpieces, hrest⟩ := ih
    obtain ⟨first, hfirst, hbefore⟩ := exists_spells_textIfAny before
    refine ⟨first ++ (braces '{' m ++ name ++ braces '}' n) :: pieces, ?_, ?_⟩
    · rw [scan_round h]
      exact List.rel_append hfirst (.cons ⟨m, n, rfl⟩ hpieces)
    · simp [hbefore, hrest, round]

/-! ### Canonical lists -/

/-- **Tokens that can stand in a list**: texts are not empty, and names hold no brace that would have
ended them or counted as one that opens. -/
def IsFit : PathToken → Prop
  | .text cs => cs ≠ []
  | .placeholder name => name.head? ≠ some '{' ∧ '}' ∉ name

/-- **Tokens that can follow each other**: two texts would be one, no brace opens in a text before a
placeholder, and after a placeholder no text starts with a brace that closes. -/
def Borders : PathToken → PathToken → Prop
  | .text _, .text _ => False
  | .text cs, .placeholder _ => '{' ∉ cs
  | .placeholder _, .text cs => cs.head? ≠ some '}'
  | .placeholder _, .placeholder _ => True

/-- **Canonical tokens.** A text at the end may hold a brace that opens, but none that closes after it. -/
structure IsCanonical (tokens : List PathToken) : Prop where
  fit : ∀ token ∈ tokens, token.IsFit
  borders : tokens.IsChain Borders
  last : ∀ cs, tokens.getLast? = some (.text cs) → IsPlain cs

theorem isCanonical_nil : IsCanonical [] := ⟨by simp, .nil, by simp⟩

/-- A canonical list with one more token in front. -/
theorem IsCanonical.cons {token : PathToken} (h : IsCanonical tokens) (hfit : token.IsFit)
    (hborders : ∀ next ∈ tokens.head?, token.Borders next)
    (hlast : tokens = [] → ∀ cs, token = .text cs → IsPlain cs) : IsCanonical (token :: tokens) := by
  refine ⟨List.forall_mem_cons.mpr ⟨hfit, h.fit⟩, List.isChain_cons.mpr ⟨hborders, h.borders⟩, ?_⟩
  intro cs hcs
  cases tokens with
  | nil => exact hlast rfl cs (by simpa using hcs)
  | cons next more => exact h.last cs (by simpa using hcs)

theorem IsCanonical.tail {token : PathToken} (h : IsCanonical (token :: tokens)) :
    IsCanonical tokens := by
  refine ⟨(List.forall_mem_cons.mp h.fit).2, (List.isChain_cons.mp h.borders).2, ?_⟩
  intro cs hcs
  cases tokens with
  | nil => simp at hcs
  | cons next more => exact h.last cs (by simpa using hcs)

theorem IsCanonical.textIfAny_append (h : IsCanonical tokens) (hcs : IsPlain cs)
    (hborders : ∀ next ∈ tokens.head?, Borders (.text cs) next) :
    IsCanonical (textIfAny cs ++ tokens) := by
  cases cs with
  | nil => exact h
  | cons c rest =>
    refine h.cons (by simp [IsFit]) hborders ?_
    intro _ ds heq
    rwa [← PathToken.text.inj heq]

/-- The first token of a scan starts as the text does, if it is a text. -/
theorem head?_of_scan (h : (scan cs).head? = some (.text before)) : before.head? = cs.head? := by
  rcases isPlain_or_exists_round cs with hplain | ⟨first, m, name, n, rest, rfl, hround⟩
  · rw [scan_of_isPlain hplain] at h
    rw [eq_of_mem_textIfAny (List.mem_of_mem_head? h)]
  · rw [scan_round hround] at h
    cases first with
    | nil => simp [textIfAny] at h
    | cons c more =>
      obtain rfl : c :: more = before := by simpa [textIfAny] using h
      rfl

/-- **Every scan is canonical**: each of its tokens is one that a scan can give, neighbours do not run
into each other, and a text at the end holds no placeholder. -/
theorem isCanonical_scan (cs : List Char) : IsCanonical (scan cs) := by
  induction cs using rounds_induct with
  | plain cs h =>
    rw [scan_of_isPlain h, ← List.append_nil (textIfAny cs)]
    exact isCanonical_nil.textIfAny_append h (by simp)
  | step before m name n rest h ih =>
    rw [scan_round h]
    have hplaceholder : IsCanonical (.placeholder name :: scan rest) := by
      refine ih.cons ⟨h.opens, h.closes⟩ ?_ (by simp)
      intro next hnext
      cases next with
      | text cs =>
        have hhead := head?_of_scan (Option.mem_def.mp hnext)
        rw [Borders, hhead]
        exact h.rest
      | placeholder _ => trivial
    refine hplaceholder.textIfAny_append (isPlain_of_not_mem h.before) ?_
    rintro next hnext
    obtain rfl : .placeholder name = next := by simpa using hnext
    exact h.before

/-! ### Writing -/

theorem write_cons (token : PathToken) (tokens : List PathToken) :
    write (token :: tokens) = writeOne token ++ write tokens := by
  simp [write]

/-- What is written after a placeholder leaves its closing brace alone. -/
theorem head?_write_ne (h : IsCanonical (.placeholder name :: tokens)) :
    (write tokens).head? ≠ some '}' := by
  cases tokens with
  | nil => simp [write]
  | cons next more =>
    have hborders := (List.isChain_cons.mp h.borders).1 next rfl
    have hfit := h.fit next (by simp)
    rw [write_cons]
    cases next with
    | placeholder _ => simp [writeOne]
    | text cs =>
      obtain ⟨c, rest, rfl⟩ := List.exists_cons_of_ne_nil hfit
      simpa [writeOne, Borders] using hborders

/-- A placeholder after a text is written as a round. -/
theorem scan_write_placeholder (h : IsCanonical (.placeholder name :: tokens))
    (before : List Char) (hbefore : '{' ∉ before) (ih : scan (write tokens) = tokens) :
    scan (before ++ write (.placeholder name :: tokens)) =
      textIfAny before ++ .placeholder name :: tokens := by
  have hname := h.fit (.placeholder name) (by simp)
  have hfirst : IsFirst before name (write tokens) :=
    ⟨hbefore, hname.1, hname.2, head?_write_ne h⟩
  have heq : before ++ write (.placeholder name :: tokens) = round before 0 name 0 (write tokens) := by
    simp [write_cons, writeOne, round, braces]
  rw [heq, scan_round hfirst, ih]

/-- **Canonical tokens are read back** from what they are written as. -/
theorem scan_write : ∀ tokens : List PathToken, IsCanonical tokens → scan (write tokens) = tokens
  | [], _ => scan_of_isPlain (isPlain_of_not_mem (by simp [write]))
  | [.text cs], h => by
    have hne := h.fit (.text cs) (by simp)
    have hplain := h.last cs rfl
    simp only [write, List.flatMap_cons, List.flatMap_nil, writeOne, List.append_nil,
      scan_of_isPlain hplain, textIfAny]
    simpa [IsFit] using hne
  | .text _ :: .text _ :: _, h => ((List.isChain_cons.mp h.borders).1 _ rfl).elim
  | .text cs :: .placeholder name :: rest, h => by
    have hne : cs ≠ [] := h.fit (.text cs) (by simp)
    have hbefore : '{' ∉ cs := (List.isChain_cons.mp h.borders).1 _ rfl
    have ih := scan_write rest h.tail.tail
    rw [write_cons, writeOne, scan_write_placeholder h.tail cs hbefore ih]
    simp [textIfAny, hne]
  | .placeholder name :: rest, h => by
    have ih := scan_write rest h.tail
    exact scan_write_placeholder h [] (by simp) ih

/-- **A scan loses nothing, and gives the canonical tokens.** Every text is its tokens spelled out, and a
list of tokens comes out of a scan exactly if it is canonical, which is so exactly if it is what its own
writing is scanned to. So a text whose runs of braces have been collapsed stays as it is when they are
collapsed again. -/
theorem scan_lossless_and_canonical (cs : List Char) :
    (∃ pieces, List.Forall₂ Spells (scan cs) pieces ∧ pieces.flatten = cs) ∧
      IsCanonical (scan cs) ∧
      (∀ tokens, IsCanonical tokens ↔ scan (write tokens) = tokens) ∧
      write (scan (write (scan cs))) = write (scan cs) := by
  refine ⟨exists_spells_scan cs, isCanonical_scan cs, ?_, ?_⟩
  · intro tokens
    refine ⟨scan_write tokens, ?_⟩
    intro h
    rw [← h]
    exact isCanonical_scan _
  · rw [scan_write _ (isCanonical_scan cs)]

/-- Runs of braces collapse, and a brace that nothing closes is text. -/
example : scan "/pets/\x7b\x7bid\x7d\x7d\x7d/\x7bname".toList =
    [.text "/pets/".toList, .placeholder "id".toList, .text "/\x7bname".toList] := by
  cbv

end ApiScaffold.PathToken
