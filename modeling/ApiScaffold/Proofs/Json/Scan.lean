import ApiScaffold.Json.Printer
import ApiScaffold.Json.Token
import ApiScaffold.Proofs.Json.NumberGrammar
import ApiScaffold.Proofs.Literal.RoundTrip

/-!
# Printed texts token by token

The scanner takes a text one character after the other. Of a text it is said here which tokens it adds,
whatever tokens came before. A text may end between two tokens (`Token.Ends`), or in a word that the next
character has to end (`Token.Scans`); either is closed under putting texts one after the other. Strings as
they are printed end between tokens, and numbers and names end in a word.
-/

namespace ApiScaffold.Json.Token

variable {cs more : List Char} {ts us : List Token} {c : Char} {t : Token}

/-! ### Texts and their tokens -/

/-- **A text that ends between tokens**, and the tokens that it adds. -/
def Ends (cs : List Char) (ts : List Token) : Prop :=
  ∀ before, cs.foldlM step (.between, before) = some (.between, ts.reverse ++ before)

/-- **Where the tokens are known**: between two of them, or in a word that is a token as it stands. -/
inductive Settles : Scan × List Token → List Token → Prop
  | between (ts : List Token) : Settles (.between, ts) ts
  | word {chars : List Char} {ts : List Token} {t : Token} (h : word? chars.reverse = some t) :
      Settles (.word chars, ts) (t :: ts)

/-- **A text that may end in a word**, and the tokens that it adds. -/
def Scans (cs : List Char) (ts : List Token) : Prop :=
  ∀ before, ∃ s, cs.foldlM step (.between, before) = some s ∧ Settles s (ts.reverse ++ before)

theorem step_between (before : List Token) : step (.between, before) c = stepBetween c before := rfl

/-- A character that ends a word is looked at once more, after the word. -/
theorem step_word_of_endsWord {chars : List Char} (hc : endsWord c = true) (hword : word? chars.reverse = some t)
    (before : List Token) : step (.word chars, before) c = stepBetween c (t :: before) := by
  rw [step, if_pos hc, hword]
  rfl

theorem step_word {chars : List Char} (hc : endsWord c = false) (before : List Token) :
    step (.word chars, before) c = some (.word (c :: chars), before) := by
  rw [step, hc, if_neg Bool.false_ne_true]

/-- A character that ends words goes on as if the word had ended before it. -/
theorem Settles.step {s : Scan × List Token} (h : Settles s ts) (hc : endsWord c = true) :
    Token.step s c = Token.step (.between, ts) c := by
  cases h with
  | between => rfl
  | word hword => rw [step_word_of_endsWord hc hword, step_between]

/-- Where a scan has settled, the tokens are known, even if a word is still open. -/
theorem Settles.finish? {s : Scan × List Token} (h : Settles s ts) :
    Token.finish? s = some ts.reverse := by
  cases h with
  | between => rfl
  | word hword =>
    rw [Token.finish?, hword]
    rfl

/-- The tokens of a whole text. -/
theorem Scans.scan? (h : Scans cs ts) : Token.scan? cs = some ts := by
  obtain ⟨s, hs, hsettles⟩ := h []
  rw [Token.scan?, hs, Option.bind_some, hsettles.finish?, List.append_nil, List.reverse_reverse]

/-- A text that ends outside of words settles. -/
theorem Ends.scans (h : Ends cs ts) : Scans cs ts := fun before => ⟨_, h before, .between _⟩

theorem ends_nil : Ends [] [] := fun _ => rfl

/-- **Texts that end outside of words** can be put after one another, and their tokens follow each
other. -/
theorem Ends.append (h : Ends cs ts) (hmore : Ends more us) : Ends (cs ++ more) (ts ++ us) := by
  intro before
  rw [List.foldlM_append, h before, Option.bind_eq_bind, Option.bind_some, hmore, List.reverse_append,
    List.append_assoc]

/-- The last of them may still leave a word open. -/
theorem Ends.append_scans (h : Ends cs ts) (hmore : Scans more us) :
    Scans (cs ++ more) (ts ++ us) := by
  intro before
  rw [List.foldlM_append, h before, Option.bind_eq_bind, Option.bind_some, List.reverse_append,
    List.append_assoc]
  exact hmore _

/-- A text after one that ends in a word has to end the word. -/
theorem Scans.append_ends (h : Scans cs ts) (hc : endsWord c = true) (hmore : Ends (c :: more) us) :
    Ends (cs ++ c :: more) (ts ++ us) := by
  intro before
  obtain ⟨s, hs, hsettles⟩ := h before
  have hnext := hmore (ts.reverse ++ before)
  rw [List.foldlM_cons] at hnext
  rw [List.foldlM_append, hs, Option.bind_eq_bind, Option.bind_some, List.foldlM_cons,
    hsettles.step hc, hnext, List.reverse_append, List.append_assoc]

/-! ### Single characters -/

theorem ends_space (h : isSpace c = true) : Ends [c] [] := by
  intro before
  rw [List.foldlM_cons, step_between, stepBetween, if_pos h]
  rfl

/-- Punctuation is a token on its own. -/
theorem ends_punctuation (hspace : isSpace c = false) (hquote : c ≠ '"') (h : punctuation? c = some t) :
    Ends [c] [t] := by
  intro before
  rw [List.foldlM_cons, step_between, stepBetween, hspace, if_neg Bool.false_ne_true, if_neg hquote, h]
  rfl

/-- A new line is a feed and two spaces for each level. -/
theorem toList_newline (level : Nat) :
    (newline level).toList = '\n' :: List.replicate (2 * level) ' ' := by
  simp [newline, String.toList_append]

theorem ends_newline (level : Nat) : Ends (newline level).toList [] := by
  have hspaces (n : Nat) : Ends (List.replicate n ' ') [] := by
    induction n with
    | zero => exact ends_nil
    | succ n ih => exact (ends_space (by decide)).append ih
  rw [toList_newline]
  exact (ends_space (c := '\n') (by decide)).append (hspaces _)

/-- A new line ends a word before it. -/
theorem Scans.append_newline (h : Scans cs ts) (level : Nat) :
    Ends (cs ++ (newline level).toList) ts := by
  have hline := ends_newline level
  rw [toList_newline] at hline ⊢
  simpa using h.append_ends (by decide) hline

/-! ### Words -/

/-- **A word** is the token that its characters stand for. -/
theorem scans_word (hne : cs ≠ []) (hchars : ∀ c ∈ cs, endsWord c = false) (h : word? cs = some t) :
    Scans cs [t] := by
  have hrun (chars : List Char) (before : List Token) (cs : List Char)
      (hchars : ∀ c ∈ cs, endsWord c = false) :
      cs.foldlM step (.word chars, before) = some (.word (cs.reverse ++ chars), before) := by
    induction cs generalizing chars with
    | nil => rfl
    | cons c rest ih =>
      obtain ⟨hc, hrest⟩ := List.forall_mem_cons.mp hchars
      rw [List.foldlM_cons, step_word hc, Option.bind_eq_bind, Option.bind_some, ih _ hrest, List.reverse_cons, List.append_assoc, List.singleton_append]
  intro before
  cases cs with
  | nil => exact absurd rfl hne
  | cons c rest =>
    obtain ⟨hc, hrest⟩ := List.forall_mem_cons.mp hchars
    have hfirst : step (.between, before) c = some (.word [c], before) := by
      simp only [endsWord, Bool.or_eq_false_iff, decide_eq_false_iff_not, Option.isSome_eq_false_iff,
        Option.isNone_iff_eq_none] at hc
      rw [step_between, stepBetween, hc.1.1, if_neg Bool.false_ne_true, if_neg hc.1.2, hc.2]
    refine ⟨(.word (rest.reverse ++ [c]), before), ?_, .word ?_⟩
    · rw [List.foldlM_cons, hfirst, Option.bind_eq_bind, Option.bind_some, hrun [c] before rest hrest]
    · simpa using h

/-- A name is a word as it stands. -/
theorem scans_name (hne : cs ≠ []) (hchars : cs.all (!endsWord ·) = true) (h : word? cs = some t) :
    Scans cs [t] :=
  scans_word hne (fun c hc => by simpa using List.all_eq_true.mp hchars c hc) h

/-! ### Numbers -/

open Literal.Value (isNumberChar IsNumberText isNumberText_int isNumberText_float)

/-- No character of a number ends a word. -/
theorem endsWord_of_isNumberChar (h : isNumberChar c = true) : endsWord c = false := by
  simp only [isNumberChar, Bool.or_eq_true, decide_eq_true_eq] at h
  rcases h with (((h | rfl) | rfl) | rfl) | rfl
  · have hne (d : Char) (hd : d.isDigit = false) : c ≠ d := by
      rintro rfl
      rw [h] at hd
      cases hd
    have hpunctuation : punctuation? c = none := by
      unfold punctuation?
      split
      all_goals first | rfl | exact absurd rfl (hne _ (by decide))
    simp [endsWord, isSpace, hpunctuation, hne]
  all_goals decide

/-- A text in the grammar of numbers is none of the names. -/
theorem word?_of_ofChars? {n : NumberText} (h : NumberText.ofChars? cs = some n) :
    word? cs = some (.number n.value?) := by
  have hne (name : List Char) (hname : NumberText.ofChars? name = none) : cs ≠ name := by
    rintro rfl
    rw [h] at hname
    cases hname
  rw [word?, if_neg (hne _ rfl), if_neg (hne _ rfl), if_neg (hne _ rfl), h]
  rfl

/-- **Integers of 64 bits** are read as they are printed. -/
theorem word?_toString {n : Int} (hlow : -(twoTo 63 : Int) ≤ n) (hhigh : n < twoTo 64) :
    word? (toString n).toList = some (.number (some (.int n))) := by
  cases n with
  | ofNat n =>
    have htext : (toString (Int.ofNat n)).toList = Nat.toDigits 10 n := Nat.toList_repr
    have hvalue : NumberText.value? ⟨false, Nat.toDigits 10 n, none, none⟩ = some (.int n) := by
      rw [NumberText.value?, digitsValue_toDigits]
      exact if_pos (Int.ofNat_lt.mp hhigh)
    rw [htext, word?_of_ofChars? (NumberText.ofChars?_toDigits n).1, hvalue]
    rfl
  | negSucc n =>
    have htext : (toString (Int.negSucc n)).toList = '-' :: Nat.toDigits 10 (n + 1) := by
      have hrepr : (Nat.repr (n + 1)).toList = Nat.toDigits 10 (n + 1) := Nat.toList_repr
      rw [← hrepr]
      exact String.toList_append
    have hvalue : NumberText.value? ⟨true, Nat.toDigits 10 (n + 1), none, none⟩ =
        some (.int (Int.negSucc n)) := by
      have hrange : 0 < n + 1 ∧ n + 1 ≤ twoTo 63 := ⟨Nat.succ_pos n, by omega⟩
      rw [NumberText.value?, digitsValue_toDigits]
      exact if_pos hrange
    rw [htext, word?_of_ofChars? (NumberText.ofChars?_toDigits (n + 1)).2, hvalue]

/-- **An integer of 64 bits** is scanned as itself. Larger ones would be rounded. -/
theorem scans_int {n : Int} (hlow : -(twoTo 63 : Int) ≤ n) (hhigh : n < twoTo 64) :
    Scans (toString n).toList [.number (some (.int n))] := by
  have hword := word?_toString hlow hhigh
  refine scans_word ?_ (fun c hc => endsWord_of_isNumberChar (isNumberText_int n c hc)) hword
  intro hempty
  rw [hempty] at hword
  cases hword

/-- A number that is read as it is printed is a word. -/
theorem scans_float {x : Binary64}
    (h : word? (numberText x).toList = some (.number (some (.float x)))) :
    Scans (numberText x).toList [.number (some (.float x))] := by
  refine scans_word ?_ (fun c hc => endsWord_of_isNumberChar (isNumberText_float x c hc)) h
  intro hempty
  rw [hempty] at h
  cases h

/-! ### Strings -/

/-- Hexadecimal digits are read as they are written. -/
theorem hexValue?_hexDigit : ∀ d < 16, hexValue? (hexDigit d) = some d := by decide

/-- A four-digit escape below the surrogates adds its character. -/
theorem foldlM_step_unicode {text : Literal} (hhigh : text.high = none) {c : Char} (hc : c.toNat < 32)
    (before : List Token) :
    ['\\', 'u', '0', '0', hexDigit (c.toNat / 16), hexDigit (c.toNat % 16)].foldlM step
      (.literal text, before) = some (.literal (text.push c), before) := by
  have hfirst : step (.unicode text 2 0, before) (hexDigit (c.toNat / 16)) =
      some (.unicode text 3 (16 * 0 + c.toNat / 16), before) := by
    rw [step, hexValue?_hexDigit _ (by omega)]
    rfl
  have hsecond : step (.unicode text 3 (16 * 0 + c.toNat / 16), before) (hexDigit (c.toNat % 16)) =
      some (.literal (text.pushUnit (16 * (16 * 0 + c.toNat / 16) + c.toNat % 16)), before) := by
    rw [step, hexValue?_hexDigit _ (by omega)]
    rfl
  have hunit : 16 * (16 * 0 + c.toNat / 16) + c.toNat % 16 = c.toNat := by omega
  have hpush : text.pushUnit c.toNat = text.push c := by
    have hlow : ¬ (0xDC00 ≤ c.toNat ∧ c.toNat ≤ 0xDFFF) := by omega
    have hhighUnit : ¬ (0xD800 ≤ c.toNat ∧ c.toNat ≤ 0xDBFF) := by omega
    rw [Literal.pushUnit, hhigh]
    dsimp only
    rw [if_neg hlow, if_neg hhighUnit, Char.ofNat_toNat]
  have hstart : ['\\', 'u', '0', '0'].foldlM step (.literal text, before) =
      some (.unicode text 2 0, before) := rfl
  change (['\\', 'u', '0', '0'] ++ [_, _]).foldlM step _ = _
  simp only [List.foldlM_append, List.foldlM_cons, List.foldlM_nil, hstart, hfirst, hsecond, hunit, hpush,
    Option.bind_eq_bind, Option.bind_some, Option.pure_def]

/-- An escaped character is read as the character. -/
theorem foldlM_step_escapeChar {text : Literal} (hhigh : text.high = none) (c : Char)
    (before : List Token) : (escapeChar c).foldlM step (.literal text, before) =
      some (.literal (text.push c), before) := by
  unfold escapeChar
  split_ifs with hquote hbackslash _ _ _ _ _ hcontrol
  any_goals
    subst_vars
    rfl
  · exact foldlM_step_unicode hhigh hcontrol before
  · rw [List.foldlM_cons, step, if_neg hquote, if_neg hbackslash, if_neg hcontrol]
    rfl

/-- **A printed string** is read as the string: each character is written as itself or by an escape, and
both add just that character. -/
theorem ends_quoted (s : String) : Ends (quoted s).toList [.string (some s)] := by
  have hrun (cs chars : List Char) (before : List Token) :
      (cs.flatMap escapeChar).foldlM step (.literal ⟨chars, none, false⟩, before) =
        some (.literal ⟨cs.reverse ++ chars, none, false⟩, before) := by
    induction cs generalizing chars with
    | nil => rfl
    | cons c rest ih =>
      rw [List.flatMap_cons, List.foldlM_append, foldlM_step_escapeChar rfl, Option.bind_eq_bind,
        Option.bind_some, Literal.push, Bool.false_or]
      change List.foldlM step (.literal ⟨c :: chars, none, false⟩, before) _ = _
      rw [ih, List.reverse_cons, List.append_assoc, List.singleton_append]
  intro before
  have hstring : Literal.value? ⟨s.toList.reverse ++ [], none, false⟩ = some s := by
    rw [Literal.value?, List.append_nil, List.reverse_reverse, String.ofList_toList]
    rfl
  rw [quoted, String.toList_ofList, List.cons_append, List.foldlM_cons]
  change List.foldlM step (.literal ⟨[], none, false⟩, before) _ = _
  rw [List.foldlM_append, hrun, Option.bind_eq_bind, Option.bind_some]
  change some (Scan.between, Token.string (Literal.value? _) :: before) = _
  rw [hstring]
  rfl

end ApiScaffold.Json.Token
