import ApiScaffold.Proofs.Json.Lexeme
import ApiScaffold.Proofs.Json.Printed

/-!
# Printed values as they are spelled

A printed value is laid out from its lexemes (`layout_prettyAt`): the shape of the printer, one rule of
`Lexeme.Layout` for each way it goes on.
-/

namespace ApiScaffold.Json

mutual

/-- **The lexemes of a value.** -/
def lexemes : Json → List Lexeme
  | .null => [.word ['n', 'u', 'l', 'l']]
  | .bool true => [.word ['t', 'r', 'u', 'e']]
  | .bool false => [.word ['f', 'a', 'l', 's', 'e']]
  | .int n => [.word (toString n).toList]
  | .float x => [.word (numberText x).toList]
  | .str s => [.string (s.toList.flatMap escapeChar)]
  | .arr items => [.mark '['] ++ itemLexemes items ++ [.mark ']']
  | .obj fields => [.mark '\x7b'] ++ fieldLexemes fields ++ [.mark '\x7d']

/-- The lexemes of items. -/
def itemLexemes : List Json → List Lexeme
  | [] => []
  | [v] => lexemes v
  | v :: w :: rest => lexemes v ++ [.mark ','] ++ itemLexemes (w :: rest)

/-- The lexemes of fields. -/
def fieldLexemes : List (String × Json) → List Lexeme
  | [] => []
  | [(k, v)] => [.string (k.toList.flatMap escapeChar)] ++ .mark ':' :: lexemes v
  | (k, v) :: next :: rest =>
    [.string (k.toList.flatMap escapeChar)] ++ .mark ':' :: lexemes v ++ [.mark ','] ++
      fieldLexemes (next :: rest)

end

open Lexeme (Layout IsInside isInside_nil)

/-! ### Strings -/

/-- Characters that neither end a string nor escape anything. -/
theorem isInside_of_plain {cs : List Char} (h : ∀ c ∈ cs, c ≠ '"' ∧ c ≠ '\\' ∧ 32 ≤ c.toNat) :
    IsInside cs := by
  induction cs with
  | nil => exact isInside_nil
  | cons c cs ih =>
    intro chars done
    obtain ⟨⟨hquote, hbackslash, hcontrol⟩, hcs⟩ := List.forall_mem_cons.mp h
    rw [List.foldlM_cons, Lexeme.step, if_neg hquote, if_neg (Nat.not_lt.mpr hcontrol),
      if_neg hbackslash]
    simpa using ih hcs (c :: chars) done

/-- A backslash takes the next character with it. -/
theorem isInside_escape {c : Char} (h : 32 ≤ c.toNat) :
    IsInside ['\\', c] ∧ ∀ d ∈ ['\\', c], 32 ≤ d.toNat := by
  constructor
  · intro chars done
    have hstep : Lexeme.step (.escape ('\\' :: chars), done) c =
        some (.string (c :: '\\' :: chars), done) := if_neg (Nat.not_lt.mpr h)
    rw [List.foldlM_cons]
    change List.foldlM Lexeme.step (.escape ('\\' :: chars), done) [c] = _
    rw [List.foldlM_cons, hstep]
    rfl
  · intro d hd
    simp only [List.mem_cons, List.not_mem_nil, or_false] at hd
    rcases hd with rfl | rfl
    · decide
    · exact h

theorem hexDigit_plain :
    ∀ d < 16, hexDigit d ≠ '"' ∧ hexDigit d ≠ '\\' ∧ 32 ≤ (hexDigit d).toNat := by decide

/-- **What a character is printed as** stands in a string, and is no control character. -/
theorem isInside_escapeChar (c : Char) :
    IsInside (escapeChar c) ∧ ∀ d ∈ escapeChar c, 32 ≤ d.toNat := by
  unfold escapeChar
  split_ifs with hquote hbackslash _ _ _ _ _ hcontrol
  · exact isInside_escape (by decide)
  · exact isInside_escape (by decide)
  · exact isInside_escape (by decide)
  · exact isInside_escape (by decide)
  · exact isInside_escape (by decide)
  · exact isInside_escape (by decide)
  · exact isInside_escape (by decide)
  · have hhigh := hexDigit_plain (c.toNat / 16) (by omega)
    have hlow := hexDigit_plain (c.toNat % 16) (by omega)
    have hdigits : ∀ d ∈ ['0', '0', hexDigit (c.toNat / 16), hexDigit (c.toNat % 16)],
        d ≠ '"' ∧ d ≠ '\\' ∧ 32 ≤ d.toNat := by
      intro d hd
      simp only [List.mem_cons, List.not_mem_nil, or_false] at hd
      rcases hd with rfl | rfl | rfl | rfl
      · decide
      · decide
      · exact hhigh
      · exact hlow
    obtain ⟨hstart, hstartChars⟩ := isInside_escape (show 32 ≤ 'u'.toNat by decide)
    refine ⟨hstart.append (isInside_of_plain hdigits), ?_⟩
    intro d hd
    rcases List.mem_append.mp (show d ∈ ['\\', 'u'] ++ _ from hd) with hd | hd
    · exact hstartChars d hd
    · exact (hdigits d hd).2.2
  · have hplain : ∀ d ∈ [c], d ≠ '"' ∧ d ≠ '\\' ∧ 32 ≤ d.toNat := by
      simpa using ⟨hquote, hbackslash, Nat.not_lt.mp hcontrol⟩
    exact ⟨isInside_of_plain hplain, fun d hd => (hplain d hd).2.2⟩

/-- **A printed string** is one lexeme. Its line feeds and quotes are escaped, so it neither ends early
nor spreads over lines. -/
theorem layout_quoted (s : String) : Layout (quoted s).toList [.string (s.toList.flatMap escapeChar)] := by
  have hinside (cs : List Char) : IsInside (cs.flatMap escapeChar) := by
    induction cs with
    | nil => exact isInside_nil
    | cons c cs ih => exact (isInside_escapeChar c).1.append ih
  rw [quoted, String.toList_ofList]
  refine .string (hinside _) ?_
  intro d hd
  obtain ⟨c, -, hd⟩ := List.mem_flatMap.mp hd
  exact (isInside_escapeChar c).2 d hd

/-! ### Values -/

theorem layout_name {cs : List Char} (hne : cs ≠ []) (hchars : cs.all (!Token.endsWord ·) = true) :
    Layout cs [.word cs] :=
  .word hne fun c hc => by simpa using List.all_eq_true.mp hchars c hc

theorem layout_number {s : String} (hne : s ≠ "") (h : Literal.Value.IsNumberText s) :
    Layout s.toList [.word s.toList] := by
  refine .word (by simpa using hne) ?_
  intro c hc
  exact Token.endsWord_of_isNumberChar (h c hc)

/-- Items are laid out after what the array starts with. -/
theorem layout_prettyItems {items : List Json}
    (h : ∀ v ∈ items, ∀ level, Layout (prettyAt level v).toList (lexemes v)) (level : Nat)
    {cs : List Char} {ls : List Lexeme} (hcs : Layout cs ls) :
    Layout (cs ++ (prettyItems level items).toList) (ls ++ itemLexemes items) := by
  induction items generalizing cs ls with
  | nil =>
    rw [prettyItems, itemLexemes]
    simpa using hcs
  | cons v rest ih =>
    obtain ⟨hv, hrest⟩ := List.forall_mem_cons.mp h
    have hfirst := hcs.broken (2 * level) (hv level)
    cases rest with
    | nil =>
      rw [prettyItems, itemLexemes]
      simpa [Token.toList_newline] using hfirst
    | cons w rest =>
      have hcomma := hfirst.close (c := ',') (by decide)
      rw [prettyItems, itemLexemes]
      simpa [Token.toList_newline] using ih hrest hcomma

/-- Fields are laid out after what the object starts with. -/
theorem layout_prettyFields {fields : List (String × Json)}
    (h : ∀ f ∈ fields, ∀ level, Layout (prettyAt level f.2).toList (lexemes f.2)) (level : Nat)
    {cs : List Char} {ls : List Lexeme} (hcs : Layout cs ls) :
    Layout (cs ++ (prettyFields level fields).toList) (ls ++ fieldLexemes fields) := by
  induction fields generalizing cs ls with
  | nil =>
    rw [prettyFields, fieldLexemes]
    simpa using hcs
  | cons f rest ih =>
    obtain ⟨k, v⟩ := f
    obtain ⟨hv, hrest⟩ := List.forall_mem_cons.mp h
    have hfirst := hcs.broken (2 * level) ((layout_quoted k).colon (hv level))
    cases rest with
    | nil =>
      rw [prettyFields, fieldLexemes]
      simpa [Token.toList_newline] using hfirst
    | cons next rest =>
      have hcomma := hfirst.close (c := ',') (by decide)
      rw [prettyFields, fieldLexemes]
      simpa [Token.toList_newline] using ih hrest hcomma

/-- **Printed values are laid out**, at any level. The white space that printing adds depends on the
level alone, and stands between lexemes only. -/
theorem layout_prettyAt (v : Json) (level : Nat) : Layout (prettyAt level v).toList (lexemes v) := by
  induction v using Json.induct generalizing level with
  | null =>
    rw [prettyAt, lexemes]
    exact layout_name (List.cons_ne_nil _ _) (by decide)
  | bool b =>
    cases b with
    | true =>
      rw [prettyAt, lexemes]
      exact layout_name (List.cons_ne_nil _ _) (by decide)
    | false =>
      rw [prettyAt, lexemes]
      exact layout_name (List.cons_ne_nil _ _) (by decide)
  | int n => exact layout_number (toString_int_ne_empty n) (Literal.Value.isNumberText_int n)
  | float x => exact layout_number (numberText_ne_empty x) (Literal.Value.isNumberText_float x)
  | str s => exact layout_quoted s
  | arr items ih =>
    have hopen : Layout ['['] [.mark '['] := .mark (by decide)
    have hclose : Layout [']'] [.mark ']'] := .mark (by decide)
    cases items with
    | nil =>
      rw [prettyAt, lexemes, itemLexemes]
      exact hopen.close (by decide)
    | cons v rest =>
      have hitems := (layout_prettyItems ih (level + 1) hopen).broken (2 * level) hclose
      rw [prettyAt, lexemes]
      simpa [Token.toList_newline] using hitems
  | obj fields ih =>
    have hopen : Layout ['\x7b'] [.mark '\x7b'] := .mark (by decide)
    have hclose : Layout ['\x7d'] [.mark '\x7d'] := .mark (by decide)
    cases fields with
    | nil =>
      rw [prettyAt, lexemes, fieldLexemes]
      exact hopen.close (by decide)
    | cons f rest =>
      have hfields := (layout_prettyFields ih (level + 1) hopen).broken (2 * level) hclose
      rw [prettyAt, lexemes]
      simpa [Token.toList_newline] using hfields

end ApiScaffold.Json
