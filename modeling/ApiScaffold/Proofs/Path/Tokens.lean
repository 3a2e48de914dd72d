import ApiScaffold.Path.Template
import Mathlib.Data.List.TakeWhile

/-!
# Tokens of a path template

`PathToken.scan` looks for a brace that opens and for one that closes after it. Each of the three ways
this can end has an equation here. A text without a placeholder (`PathToken.IsPlain`) holds no brace that
closes after one that opens, and is left as it is (`scan_of_isPlain`); every other text is a round
(`PathToken.round`): a text before its first placeholder, the placeholder between runs of braces, and what
follows, which is scanned on its own (`scan_round`). So what holds of plain texts, and of a round if it
holds of what follows, holds of every text (`rounds_induct`).
-/

namespace ApiScaffold.PathToken

variable {cs opened closed before name rest : List Char} {c : Char} {m n k : Nat}

/-! ### One round of the scan -/

theorem scan_of_not_opened (h : cs.dropWhile (· ≠ '{') = []) : scan cs = textIfAny cs := by
  rw [scan]
  split
  · rfl
  · next heq => rw [h] at heq; cases heq

theorem scan_of_not_closed (h : cs.dropWhile (· ≠ '{') = c :: opened)
    (h' : (opened.dropWhile (· = '{')).dropWhile (· ≠ '}') = []) : scan cs = textIfAny cs := by
  rw [scan]
  split
  · rfl
  · next heq =>
    obtain ⟨-, rfl⟩ := List.cons.inj (h.symm.trans heq)
    dsimp only
    split
    · rfl
    · next heq' => rw [h'] at heq'; cases heq'

theorem scan_of_closed {c' : Char} (h : cs.dropWhile (· ≠ '{') = c :: opened)
    (h' : (opened.dropWhile (· = '{')).dropWhile (· ≠ '}') = c' :: closed) :
    scan cs = textIfAny (cs.takeWhile (· ≠ '{')) ++
      .placeholder ((opened.dropWhile (· = '{')).takeWhile (· ≠ '}')) ::
        scan (closed.dropWhile (· = '}')) := by
  rw [scan]
  split
  · next heq => rw [h] at heq; cases heq
  · next heq =>
    obtain ⟨-, rfl⟩ := List.cons.inj (h.symm.trans heq)
    dsimp only
    split
    · next heq' => rw [h'] at heq'; cases heq'
    · next heq' =>
      obtain ⟨-, rfl⟩ := List.cons.inj (h'.symm.trans heq')
      rfl

/-! ### Text -/

/-- **Text without a placeholder**: no brace closes after one that opens. -/
def IsPlain (cs : List Char) : Prop := ∀ before after, cs = before ++ '{' :: after → '}' ∉ after

theorem isPlain_of_not_mem (h : '{' ∉ cs) : IsPlain cs := by
  rintro before after rfl
  simp at h

/-- Text is plain if nothing closes after the first brace that opens in it. -/
theorem isPlain_of_first {before after : List Char} (hbefore : '{' ∉ before) (hafter : '}' ∉ after) :
    IsPlain (before ++ '{' :: after) := by
  intro before' after' h
  rcases List.append_eq_append_iff.mp h with ⟨more, rfl, hmore⟩ | ⟨more, rfl, hmore⟩
  · cases more with
    | nil =>
      obtain rfl := List.tail_eq_of_cons_eq hmore
      exact hafter
    | cons c rest =>
      obtain ⟨-, rfl⟩ := List.cons.inj hmore
      exact fun h => hafter (List.mem_append_right _ (List.mem_cons_of_mem _ h))
  · cases more with
    | nil =>
      obtain rfl := List.tail_eq_of_cons_eq hmore
      exact hafter
    | cons c rest =>
      obtain ⟨rfl, -⟩ := List.cons.inj hmore
      exact absurd (List.mem_append_right _ (List.mem_cons_self ..)) hbefore

theorem eq_of_mem_textIfAny {t : List Char} (h : .text t ∈ textIfAny cs) : t = cs := by
  rw [textIfAny] at h
  split at h
  · cases h
  · exact PathToken.text.inj (List.mem_singleton.mp h)

/-- What a character is looked for in vain does not hold it. -/
theorem not_mem_of_dropWhile_eq_nil (h : cs.dropWhile (· ≠ c) = []) : c ∉ cs := by
  intro hmem
  simpa using List.dropWhile_eq_nil_iff.mp h c hmem

/-- Where a character is found, it follows what is before it, which does not hold it. -/
theorem eq_append_of_dropWhile_eq_cons {found : Char} {after : List Char}
    (h : cs.dropWhile (· ≠ c) = found :: after) :
    cs = cs.takeWhile (· ≠ c) ++ c :: after ∧ c ∉ cs.takeWhile (· ≠ c) := by
  have hfound : found = c := by
    have hhead := List.head?_dropWhile_not (· ≠ c) cs
    rw [h] at hhead
    simpa using hhead
  subst hfound
  refine ⟨?_, fun hmem => ?_⟩
  · rw [← h, List.takeWhile_append_dropWhile]
  · simpa using List.mem_takeWhile_imp hmem

theorem scan_of_isPlain (h : IsPlain cs) : scan cs = textIfAny cs := by
  rcases hopen : cs.dropWhile (· ≠ '{') with _ | ⟨c, opened⟩
  · exact scan_of_not_opened hopen
  rcases hclose : (opened.dropWhile (· = '{')).dropWhile (· ≠ '}') with _ | ⟨c', closed⟩
  · exact scan_of_not_closed hopen hclose
  -- a brace that closes after the first that opens would stand in the plain text
  obtain ⟨hcs, -⟩ := eq_append_of_dropWhile_eq_cons hopen
  obtain ⟨hinside, -⟩ := eq_append_of_dropWhile_eq_cons hclose
  have hmem : '}' ∈ opened.dropWhile (· = '{') := by
    rw [hinside]
    simp
  exact absurd ((List.dropWhile_sublist _).subset hmem) (h _ _ hcs)

/-! ### Rounds -/

/-- A run of one and more braces. -/
def braces (brace : Char) (more : Nat) : List Char := List.replicate (more + 1) brace

/-- **A round**: a text, a placeholder between runs of braces, and what follows. -/
def round (before : List Char) (m : Nat) (name : List Char) (n : Nat) (rest : List Char) : List Char :=
  before ++ (braces '{' m ++ (name ++ (braces '}' n ++ rest)))

/-- **The first placeholder** of a round: no brace opens before it, no brace of its runs could belong to
its name, and none of the closing run is left to what follows. -/
structure IsFirst (before name rest : List Char) : Prop where
  before : '{' ∉ before
  opens : name.head? ≠ some '{'
  closes : '}' ∉ name
  rest : rest.head? ≠ some '}'

/-- A character is found where it first stands. -/
theorem search_append (h : c ∉ before) (rest : List Char) :
    (before ++ c :: rest).dropWhile (· ≠ c) = c :: rest ∧
      (before ++ c :: rest).takeWhile (· ≠ c) = before := by
  have hbefore : ∀ d ∈ before, decide (d ≠ c) = true := by
    intro d hd
    exact decide_eq_true (fun heq => h (heq ▸ hd))
  rw [List.dropWhile_append_of_pos hbefore, List.takeWhile_append_of_pos hbefore]
  simp

/-- A run is dropped up to another character. -/
theorem dropWhile_replicate_append (h : rest.head? ≠ some c) :
    (List.replicate k c ++ rest).dropWhile (· = c) = rest := by
  have hrun : ∀ d ∈ List.replicate k c, decide (d = c) = true := by
    simp [List.mem_replicate]
  rw [List.dropWhile_append_of_pos hrun]
  cases rest with
  | nil => rfl
  | cons d more => exact List.dropWhile_cons_of_neg (by simpa using h)

/-- **One round of the scan** takes the text and the placeholder off, and the scan of the rest follows.
-/
theorem scan_round (h : IsFirst before name rest) :
    scan (round before m name n rest) = textIfAny before ++ .placeholder name :: scan rest := by
  -- what follows the first brace is the rest of its run, and then the name up to the first that closes
  have hround : round before m name n rest =
      before ++ '{' :: (List.replicate m '{' ++ (name ++ '}' :: (List.replicate n '}' ++ rest))) := by
    simp [round, braces, List.replicate_succ]
  obtain ⟨hopen, hbefore⟩ := search_append h.before
    (List.replicate m '{' ++ (name ++ '}' :: (List.replicate n '}' ++ rest)))
  obtain ⟨hclose, hname⟩ := search_append h.closes (List.replicate n '}' ++ rest)
  have hinside : (List.replicate m '{' ++ (name ++ '}' :: (List.replicate n '}' ++ rest))).dropWhile
      (· = '{') = name ++ '}' :: (List.replicate n '}' ++ rest) := by
    refine dropWhile_replicate_append ?_
    intro hhead
    rw [List.head?_append] at hhead
    rcases Option.or_eq_some_iff.mp hhead with hhead | ⟨-, hhead⟩
    · exact h.opens hhead
    · simp at hhead
  rw [hround, scan_of_closed hopen (by rw [hinside, hclose]), hinside, hbefore, hname,
    dropWhile_replicate_append h.rest]

/-- A text is a run of a character, and what starts otherwise. -/
theorem exists_replicate_append (c : Char) (cs : List Char) :
    ∃ k rest, cs = List.replicate k c ++ rest ∧ rest.head? ≠ some c := by
  refine ⟨(cs.takeWhile (· = c)).length, cs.dropWhile (· = c), ?_, ?_⟩
  · have htake : cs.takeWhile (· = c) = List.replicate (cs.takeWhile (· = c)).length c := by
      refine List.eq_replicate_of_mem ?_
      intro d hd
      simpa using List.mem_takeWhile_imp hd
    rw [← htake, List.takeWhile_append_dropWhile]
  · intro hhead
    have hnot := List.head?_dropWhile_not (· = c) cs
    rw [hhead] at hnot
    simp at hnot

/-- **Every text is plain or a round**: what stands before its first placeholder, the placeholder with
all braces that open it, and a rest. -/
theorem isPlain_or_exists_round (cs : List Char) :
    IsPlain cs ∨ ∃ before m name n rest, cs = round before m name n rest ∧
      IsFirst before name rest := by
  rcases hopen : cs.dropWhile (· ≠ '{') with _ | ⟨c, opened⟩
  · exact .inl (isPlain_of_not_mem (not_mem_of_dropWhile_eq_nil hopen))
  obtain ⟨hcs, hbefore⟩ := eq_append_of_dropWhile_eq_cons hopen
  obtain ⟨m, inside, hopened, hinside⟩ := exists_replicate_append '{' opened
  rcases hclose : inside.dropWhile (· ≠ '}') with _ | ⟨c', closed⟩
  · -- a closing brace is not one of the opening ones that count as one
    refine .inl (hcs ▸ isPlain_of_first hbefore ?_)
    have hnot := not_mem_of_dropWhile_eq_nil hclose
    simp [hopened, List.mem_replicate, hnot]
  obtain ⟨hsplit, hname⟩ := eq_append_of_dropWhile_eq_cons hclose
  obtain ⟨n, rest, hclosed, hrest⟩ := exists_replicate_append '}' closed
  refine .inr ⟨_, m, _, n, rest, ?_, hbefore, ?_, hname, hrest⟩
  · rw [round, braces, braces, List.replicate_succ, List.replicate_succ, List.cons_append,
      List.cons_append, ← hclosed, ← hsplit, ← hopened, ← hcs]
  · -- the name starts as what it was taken from, or it is empty
    intro hhead
    refine hinside ?_
    rw [hsplit, List.head?_append, hhead, Option.some_or]

/-- **Induction over the rounds of a text**, as the scan goes through it. Each round ends in a rest that
is shorter. -/
theorem rounds_induct {motive : List Char → Prop} (plain : ∀ cs, IsPlain cs → motive cs)
    (step : ∀ before m name n rest, IsFirst before name rest → motive rest →
      motive (round before m name n rest)) (cs : List Char) : motive cs := by
  induction hlength : cs.length using Nat.strong_induction_on generalizing cs with
  | _ length ih =>
    rcases isPlain_or_exists_round cs with h | ⟨before, m, name, n, rest, rfl, h⟩
    · exact plain cs h
    · refine step before m name n rest h (ih rest.length ?_ rest rfl)
      simp only [round, braces, List.length_append, List.length_replicate] at hlength
      omega

/-- **What is left as text has no placeholder in it.** -/
theorem isPlain_of_mem_scan {t : List Char} (h : .text t ∈ scan cs) : IsPlain t := by
  induction cs using rounds_induct with
  | plain cs hplain =>
    rw [scan_of_isPlain hplain] at h
    rwa [eq_of_mem_textIfAny h]
  | step before m name n rest hfirst ih =>
    rw [scan_round hfirst] at h
    rcases List.mem_append.mp h with h | h
    · rw [eq_of_mem_textIfAny h]
      exact isPlain_of_not_mem hfirst.before
    · exact ih (List.mem_of_ne_of_mem (by simp) h)

end ApiScaffold.PathToken
