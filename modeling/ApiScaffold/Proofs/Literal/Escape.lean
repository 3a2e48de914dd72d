import ApiScaffold.Literal
import ApiScaffold.Proofs.Literal.Reader

/-!
# Quoted texts are read back

A literal that opens with a single quote goes up to the first quote without a backslash before it.
`Literal.closing?` finds that quote, and `Literal.unescape` drops from what stands before it the
backslashes that make the next character literal. A quoted text is read back by both
(`unquote?_quote`).

JavaScript is stricter on two points: some characters mean something else after a backslash, and a
line may not end inside a literal. The first makes no difference, since only quotes and backslashes are
escaped. The second does: a quoted text is a literal exactly if no line ends in it
(`isLegal_escaped_iff`).
-/

namespace ApiScaffold.Literal

/-! ### Up to the closing quote -/

/-- **The inside of a literal**, as it is written, and what follows its closing quote. -/
def closing? : List Char → Option (List Char × List Char)
  | [] => none
  | [c] => if c = '\'' then some ([], []) else none
  | c :: d :: cs =>
    if c = '\'' then some ([], d :: cs)
    else if c = '\\' then (closing? cs).map fun (inside, rest) => (c :: d :: inside, rest)
    else (closing? (d :: cs)).map fun (inside, rest) => (c :: inside, rest)

/-- **What is written with backslashes**: each makes the next character literal. -/
def unescape : List Char → List Char
  | [] => []
  | [c] => [c]
  | c :: d :: cs => if c = '\\' then d :: unescape cs else c :: unescape (d :: cs)

/-- The text of a literal after its opening quote, and what follows its closing quote. -/
def unquote? (cs : List Char) : Option (List Char × List Char) :=
  (closing? cs).map fun (inside, rest) => (unescape inside, rest)

theorem closing?_quote (cs : List Char) : closing? ('\'' :: cs) = some ([], cs) := by
  cases cs <;> rfl

theorem closing?_backslash (c : Char) (cs : List Char) :
    closing? ('\\' :: c :: cs) =
      (closing? cs).map fun (inside, rest) => ('\\' :: c :: inside, rest) := rfl

theorem closing?_cons {c : Char} (hquote : c ≠ '\'') (hbackslash : c ≠ '\\') (cs : List Char) :
    closing? (c :: cs) = (closing? cs).map fun (inside, rest) => (c :: inside, rest) := by
  cases cs with
  | nil => simp [closing?, hquote]
  | cons d cs => rw [closing?, if_neg hquote, if_neg hbackslash]

theorem unescape_backslash (c : Char) (cs : List Char) :
    unescape ('\\' :: c :: cs) = c :: unescape cs := rfl

theorem unescape_cons {c : Char} (h : c ≠ '\\') (cs : List Char) :
    unescape (c :: cs) = c :: unescape cs := by
  cases cs with
  | nil => rfl
  | cons d cs => rw [unescape, if_neg h]

/-- What follows a literal is shorter than the literal and it. -/
theorem length_of_closing? {cs inside rest : List Char} (h : closing? cs = some (inside, rest)) :
    rest.length < cs.length := by
  fun_induction closing? cs generalizing inside rest with
  | case1 => cases h
  | case2 =>
    cases h
    exact Nat.zero_lt_one
  | case3 => cases h
  | case4 d cs =>
    cases h
    exact Nat.lt_succ_self _
  | case5 d cs hquote ih =>
    obtain ⟨⟨inner, left⟩, hleft, heq⟩ := Option.map_eq_some_iff.mp h
    cases heq
    have hlt := ih hleft
    simp only [List.length_cons]
    omega
  | case6 c d cs hquote hbackslash ih =>
    obtain ⟨⟨inner, left⟩, hleft, heq⟩ := Option.map_eq_some_iff.mp h
    cases heq
    exact Nat.lt_succ_of_lt (ih hleft)

theorem length_of_unquote? {cs text rest : List Char} (h : unquote? cs = some (text, rest)) :
    rest.length < cs.length := by
  obtain ⟨⟨inside, left⟩, hleft, heq⟩ := Option.map_eq_some_iff.mp h
  cases heq
  exact length_of_closing? hleft

/-! ### Escaped texts -/

/-- A character is escaped exactly if it is a quote or a backslash. -/
theorem escapeChar_cases (c : Char) :
    ((c = '\\' ∨ c = '\'') ∧ escapeChar c = ['\\', c]) ∨
      (c ≠ '\\' ∧ c ≠ '\'' ∧ escapeChar c = [c]) := by
  unfold escapeChar
  split_ifs with hbackslash hquote
  · exact .inl ⟨.inl hbackslash, by rw [hbackslash]⟩
  · exact .inl ⟨.inr hquote, by rw [hquote]⟩
  · exact .inr ⟨hbackslash, hquote, rfl⟩

theorem escaped_cons (c : Char) (cs : List Char) : escaped (c :: cs) = escapeChar c ++ escaped cs := rfl

/-- **An escaped text goes up to the quote after it.** Quotes inside are behind backslashes, and
backslashes come in pairs, so none of them hides the quote at the end. -/
theorem closing?_escaped (cs rest : List Char) :
    closing? (escaped cs ++ '\'' :: rest) = some (escaped cs, rest) := by
  induction cs with
  | nil => exact closing?_quote rest
  | cons c cs ih =>
    rw [escaped_cons]
    rcases escapeChar_cases c with ⟨-, heq⟩ | ⟨hbackslash, hquote, heq⟩
    · rw [heq, List.append_assoc, List.cons_append, List.singleton_append, closing?_backslash, ih]
      rfl
    · rw [heq, List.append_assoc, List.singleton_append, closing?_cons hquote hbackslash, ih]
      rfl

/-- **Unescaping is the inverse of escaping**: a backslash is put before quotes and backslashes only,
and taken away from whatever it stands before. -/
theorem unescape_escaped (cs : List Char) : unescape (escaped cs) = cs := by
  induction cs with
  | nil => rfl
  | cons c cs ih =>
    rw [escaped_cons]
    rcases escapeChar_cases c with ⟨-, heq⟩ | ⟨hbackslash, -, heq⟩
    · rw [heq, List.cons_append, List.singleton_append, unescape_backslash, ih]
    · rw [heq, List.singleton_append, unescape_cons hbackslash, ih]

theorem unquote?_escaped (cs rest : List Char) :
    unquote? (escaped cs ++ '\'' :: rest) = some (cs, rest) := by
  simp only [unquote?, closing?_escaped, Option.map_some, unescape_escaped]

theorem toList_quote (s : String) : (quote s).toList = '\'' :: (escaped s.toList ++ ['\'']) := by
  rw [quote, String.toList_ofList, List.cons_append]

/-- **A quoted text is read back**: after the opening quote, the first quote without a backslash is the
last character, and what stands before it is the text. -/
theorem unquote?_quote (s : String) :
    ∃ inside, (quote s).toList = '\'' :: inside ∧ unquote? inside = some (s.toList, []) :=
  ⟨_, toList_quote s, unquote?_escaped s.toList []⟩

/-- Two texts are never quoted in the same way. -/
theorem quote_injective {s t : String} (h : quote s = quote t) : s = t := by
  have hinside : escaped s.toList ++ ['\''] = escaped t.toList ++ ['\''] := by
    have hlist := congrArg String.toList h
    rw [toList_quote, toList_quote] at hlist
    exact List.tail_eq_of_cons_eq hlist
  have hescaped := List.append_cancel_right hinside
  rw [← String.toList_inj, ← unescape_escaped s.toList, hescaped, unescape_escaped]

/-! ### Legal literals -/

/-- **Legal literals**: JavaScript reads the literal with this inside up to its closing quote. -/
def IsLegal (inside : List Char) : Prop := ∃ us, read? (inside ++ ['\'']) = some (us, [])

/-- Whether no line ends in a text. -/
def IsOneLine (cs : List Char) : Prop := ∀ c ∈ cs, c ≠ '\n' ∧ c ≠ '\r'

instance (cs : List Char) : Decidable (IsOneLine cs) := List.decidableBAll _ cs

theorem isOneLine_append {cs ds : List Char} :
    IsOneLine (cs ++ ds) ↔ IsOneLine cs ∧ IsOneLine ds :=
  List.forall_mem_append

/-- Reading goes on after an escape. -/
theorem read?_of_escape? {cs rest : List Char} {us : List Nat} (h : escape? cs = some (us, rest)) :
    read? ('\\' :: cs) = (read? rest).map fun (vs, after) => (us ++ vs, after) := by
  rw [read?, if_neg (by decide), if_pos rfl]
  split
  · next hnone => rw [h] at hnone; cases hnone
  · next us' rest' hsome =>
    rw [h] at hsome
    cases hsome
    rfl

/-- After a backslash, quotes and backslashes stand for themselves. -/
theorem escape?_of_special {c : Char} (h : c = '\\' ∨ c = '\'' ∨ c = '"') (cs : List Char) :
    escape? (c :: cs) = some (unitsOf c.toNat, cs) := by
  rcases h with rfl | rfl | rfl <;> rfl

/-- **A spelling of a character** between single quotes: a plain one is written as it is, and a
backslash or a quote of either kind after a backslash. -/
def Spells (c : Char) (cs : List Char) : Prop :=
  (c = '\\' ∨ c = '\'' ∨ c = '"') ∧ cs = ['\\', c] ∨ IsPlain [c] ∧ cs = [c]

/-- **Texts that are spelled are read as themselves**, character by character. -/
theorem read?_of_spells {f : Char → List Char} {cs : List Char} (h : ∀ c ∈ cs, Spells c (f c))
    (rest : List Char) : read? (cs.flatMap f ++ '\'' :: rest) = some (units cs, rest) := by
  induction cs with
  | nil =>
    rw [List.flatMap_nil, List.nil_append, read?, if_pos rfl]
    rfl
  | cons c cs ih =>
    obtain ⟨hc, hcs⟩ := List.forall_mem_cons.mp h
    rw [List.flatMap_cons, List.append_assoc, units_cons]
    rcases hc with ⟨hspecial, heq⟩ | ⟨hplain, heq⟩
    · rw [heq, List.cons_append, List.singleton_append,
        read?_of_escape? (escape?_of_special hspecial _), ih hcs]
      rfl
    · rw [heq, List.singleton_append, read?_cons hplain, ih hcs]
      rfl

/-- **Escaped texts of one line are read as themselves**, up to the closing quote and no further. On one
line is all that they have to be, since line ends are what escaping leaves as it is. -/
theorem read?_escaped {cs : List Char} (h : IsOneLine cs) (rest : List Char) :
    read? (escaped cs ++ '\'' :: rest) = some (units cs, rest) := by
  refine read?_of_spells ?_ rest
  intro c hc
  rcases escapeChar_cases c with ⟨hspecial, heq⟩ | ⟨hbackslash, hquote, heq⟩
  · exact .inl ⟨hspecial.imp_right .inl, heq⟩
  · exact .inr ⟨List.forall_mem_singleton.mpr ⟨hquote, hbackslash, h c hc⟩, heq⟩

/-- **A line end makes a literal illegal**: nothing escapes it, so reading stops there. -/
theorem read?_escaped_eq_none {cs : List Char} (h : ¬ IsOneLine cs) (rest : List Char) :
    read? (escaped cs ++ '\'' :: rest) = none := by
  induction cs with
  | nil => exact absurd (List.forall_mem_nil _) h
  | cons c cs ih =>
    rw [escaped_cons]
    rcases escapeChar_cases c with ⟨hspecial, heq⟩ | ⟨hbackslash, hquote, heq⟩
    · have hcs : ¬ IsOneLine cs := by
        refine fun hcs => h (List.forall_mem_cons.mpr ⟨?_, hcs⟩)
        rcases hspecial with rfl | rfl <;> decide
      rw [heq, List.append_assoc, List.cons_append, List.singleton_append,
        read?_of_escape? (escape?_of_special (hspecial.imp_right .inl) _), ih hcs]
      rfl
    · rw [heq, List.append_assoc, List.singleton_append, read?, if_neg hquote, if_neg hbackslash]
      split
      · rfl
      · next hline =>
        have hcs : ¬ IsOneLine cs :=
          fun hcs => h (List.forall_mem_cons.mpr ⟨not_or.mp hline, hcs⟩)
        rw [ih hcs]
        rfl

/-- **A quoted text is a literal exactly if no line ends in it.** Nothing but quotes and backslashes is
escaped, so a line feed or a carriage return stays as it is and breaks the literal. -/
theorem isLegal_escaped_iff (cs : List Char) : IsLegal (escaped cs) ↔ IsOneLine cs := by
  constructor
  · rintro ⟨us, hread⟩
    refine Decidable.byContradiction fun h => ?_
    rw [read?_escaped_eq_none h] at hread
    cases hread
  · exact fun h => ⟨units cs, read?_escaped h []⟩

end ApiScaffold.Literal
