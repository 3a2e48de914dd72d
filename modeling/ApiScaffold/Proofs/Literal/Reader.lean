import ApiScaffold.Json.Token
import Mathlib.Tactic.SplitIfs

/-!
# How JavaScript reads single quotes

`Literal.read?` reads a single-quoted literal as strict JavaScript does: a quote without a backslash
before it ends the literal, a backslash starts an escape, and a line may not end inside. The value is a
list of UTF-16 units, as JavaScript counts them.

A text between single quotes is read as itself exactly if it is *plain*, free of quotes, backslashes
and line ends. What carries the proof is a count of units. No escape stands for more units than it is
written with, and its backslash is one more, so a literal with an escape has fewer units than its text
(`read?_eq_some`).
-/

namespace ApiScaffold.Literal

/-! ### Units -/

/-- The UTF-16 units of a code point. -/
def unitsOf (n : Nat) : List Nat :=
  if n < 0x10000 then [n]
  else [0xD800 + (n - 0x10000) / 0x400, 0xDC00 + (n - 0x10000) % 0x400]

/-- **Units of a text.** -/
def units (cs : List Char) : List Nat := cs.flatMap fun c => unitsOf c.toNat

theorem units_cons (c : Char) (cs : List Char) : units (c :: cs) = unitsOf c.toNat ++ units cs := rfl

theorem units_append (cs ds : List Char) : units (cs ++ ds) = units cs ++ units ds :=
  List.flatMap_append

theorem one_le_length_unitsOf (n : Nat) : 1 ≤ (unitsOf n).length := by
  unfold unitsOf
  split <;> simp

/-- None has more than two: the second belongs to a character beyond the basic plane. -/
theorem length_unitsOf_le (n : Nat) : (unitsOf n).length ≤ 2 := by
  unfold unitsOf
  split <;> simp

/-- A text has at least as many units as characters. -/
theorem length_le_length_units (cs : List Char) : cs.length ≤ (units cs).length := by
  induction cs with
  | nil => exact Nat.le_refl 0
  | cons c cs ih =>
    have hc := one_le_length_unitsOf c.toNat
    rw [units_cons, List.length_cons, List.length_append]
    omega

/-! ### Escapes -/

/-- The number of a fixed count of hexadecimal digits, and what follows them. -/
def hexNumber? : Nat → Nat → List Char → Option (Nat × List Char)
  | 0, value, cs => some (value, cs)
  | _ + 1, _, [] => none
  | count + 1, value, c :: cs =>
    (Json.Token.hexValue? c).bind fun d => hexNumber? count (16 * value + d) cs

/-- The code point of hexadecimal digits up to a brace, and what follows the brace. -/
def codePoint? (value : Nat) : List Char → Option (Nat × List Char)
  | [] => none
  | c :: cs =>
    if c = '\x7d' then if value ≤ 0x10FFFF then some (value, cs) else none
    else (Json.Token.hexValue? c).bind fun d => codePoint? (16 * value + d) cs

/-- The code point of a `\u` escape: four digits, or some digits in braces. -/
def unicode? : List Char → Option (Nat × List Char)
  | '\x7b' :: '\x7d' :: _ => none
  | '\x7b' :: cs => codePoint? 0 cs
  | cs => hexNumber? 4 0 cs

/-- The character of a one-letter escape; most characters stand for themselves. -/
def shortEscape (c : Char) : Char :=
  if c = 'b' then '\x08'
  else if c = 't' then '\t'
  else if c = 'n' then '\n'
  else if c = 'v' then '\x0b'
  else if c = 'f' then '\x0c'
  else if c = 'r' then '\r'
  else c

/-- Whether a character ends a line. -/
def endsLine (c : Char) : Bool := c = '\n' || c = '\r' || c = '\u2028' || c = '\u2029'

/-- What follows a line end that starts with a character: a line feed after a carriage return belongs
to it. -/
def afterLineEnd (c : Char) : List Char → List Char
  | '\n' :: cs => if c = '\r' then cs else '\n' :: cs
  | cs => cs

/-- **An escape** after its backslash: the units that it stands for, and what follows it. The end of a
line stands for nothing, and the only digit that strict code allows is a zero without another digit
after it. -/
def escape? : List Char → Option (List Nat × List Char)
  | [] => none
  | c :: cs =>
    if c = 'x' then (hexNumber? 2 0 cs).map fun (n, rest) => ([n], rest)
    else if c = 'u' then (unicode? cs).map fun (n, rest) => (unitsOf n, rest)
    else if c.isDigit then
      if c = '0' ∧ ¬ cs.head?.any Char.isDigit then some ([0], cs) else none
    else if endsLine c then some ([], afterLineEnd c cs)
    else some (unitsOf (shortEscape c).toNat, cs)

/-- Digits of a number are taken from the front, just as many as are asked for. -/
theorem hexNumber?_eq_some {count value n : Nat} {cs rest : List Char}
    (h : hexNumber? count value cs = some (n, rest)) :
    ∃ taken, cs = taken ++ rest ∧ taken.length = count := by
  induction count generalizing value cs with
  | zero =>
    obtain ⟨-, rfl⟩ := Prod.mk.inj (Option.some.inj h)
    exact ⟨[], rfl, rfl⟩
  | succ count ih =>
    cases cs with
    | nil => cases h
    | cons c cs =>
      obtain ⟨d, -, h⟩ := Option.bind_eq_some_iff.mp h
      obtain ⟨taken, rfl, hlength⟩ := ih h
      exact ⟨c :: taken, rfl, congrArg (· + 1) hlength⟩

/-- A code point in braces takes its digits and the closing brace. -/
theorem codePoint?_eq_some {value n : Nat} {cs rest : List Char}
    (h : codePoint? value cs = some (n, rest)) :
    ∃ taken, cs = taken ++ rest ∧ 1 ≤ taken.length := by
  induction cs generalizing value with
  | nil => cases h
  | cons c cs ih =>
    rw [codePoint?] at h
    split at h
    · split at h
      · obtain ⟨-, rfl⟩ := Prod.mk.inj (Option.some.inj h)
        exact ⟨[c], rfl, Nat.le_refl 1⟩
      · cases h
    · obtain ⟨d, -, h⟩ := Option.bind_eq_some_iff.mp h
      obtain ⟨taken, rfl, -⟩ := ih h
      exact ⟨c :: taken, rfl, Nat.succ_pos _⟩

/-- An escape by a number takes at least two characters, however the number is written. -/
theorem unicode?_eq_some {n : Nat} {cs rest : List Char} (h : unicode? cs = some (n, rest)) :
    ∃ taken, cs = taken ++ rest ∧ 2 ≤ taken.length := by
  unfold unicode? at h
  split at h
  · cases h
  · obtain ⟨taken, rfl, hlength⟩ := codePoint?_eq_some h
    exact ⟨_ :: taken, rfl, Nat.succ_le_succ hlength⟩
  · obtain ⟨taken, rfl, hlength⟩ := hexNumber?_eq_some h
    exact ⟨taken, rfl, by omega⟩

/-- A short escape stands for a character that is no longer in units than the letter that it is written
with. -/
theorem length_unitsOf_shortEscape_le (c : Char) :
    (unitsOf (shortEscape c).toNat).length ≤ (unitsOf c.toNat).length := by
  have hone := one_le_length_unitsOf c.toNat
  unfold shortEscape
  split_ifs <;> first | exact hone | exact Nat.le_refl _

/-- A line end is taken together with the line feed after a carriage return, and nothing else is
skipped. -/
theorem exists_afterLineEnd (c : Char) (cs : List Char) :
    ∃ taken, cs = taken ++ afterLineEnd c cs := by
  unfold afterLineEnd
  split
  · split
    · exact ⟨['\n'], rfl⟩
    · exact ⟨[], rfl⟩
  · exact ⟨[], rfl⟩

/-- **No escape is longer than its text**, counted in units. This bounds what a literal can stand for by
the length of its code. -/
theorem escape?_eq_some {us : List Nat} {cs rest : List Char} (h : escape? cs = some (us, rest)) :
    ∃ taken, cs = taken ++ rest ∧ us.length ≤ (units taken).length := by
  cases cs with
  | nil => cases h
  | cons c cs =>
    rw [escape?] at h
    split_ifs at h with hhex hunicode hdigit hzero hline
    · obtain ⟨⟨n, _⟩, hn, heq⟩ := Option.map_eq_some_iff.mp h
      cases heq
      obtain ⟨taken, rfl, -⟩ := hexNumber?_eq_some hn
      refine ⟨c :: taken, rfl, ?_⟩
      exact Nat.le_trans (Nat.succ_pos _) (length_le_length_units (c :: taken))
    · obtain ⟨⟨n, _⟩, hn, heq⟩ := Option.map_eq_some_iff.mp h
      cases heq
      obtain ⟨taken, rfl, hlength⟩ := unicode?_eq_some hn
      have hunits := length_le_length_units (c :: taken)
      have htwo := length_unitsOf_le n
      rw [List.length_cons] at hunits
      exact ⟨c :: taken, rfl, by omega⟩
    · obtain ⟨rfl, rfl⟩ := Prod.mk.inj (Option.some.inj h)
      exact ⟨[c], rfl, length_le_length_units [c]⟩
    · obtain ⟨rfl, rfl⟩ := Prod.mk.inj (Option.some.inj h)
      obtain ⟨taken, heq⟩ := exists_afterLineEnd c cs
      exact ⟨c :: taken, congrArg (c :: ·) heq, Nat.zero_le _⟩
    · obtain ⟨rfl, rfl⟩ := Prod.mk.inj (Option.some.inj h)
      refine ⟨[c], rfl, ?_⟩
      rw [units_cons, List.length_append]
      exact Nat.le_add_right_of_le (length_unitsOf_shortEscape_le c)

/-! ### Literals -/

/-- **Literal** after its opening quote: the units that it stands for, and what follows its closing
quote. -/
def read? : List Char → Option (List Nat × List Char)
  | [] => none
  | c :: cs =>
    if c = '\'' then some ([], cs)
    else if c = '\\' then
      match _ : escape? cs with
      | none => none
      | some (us, rest) => (read? rest).map fun (vs, rest) => (us ++ vs, rest)
    else if c = '\n' ∨ c = '\r' then none
    else (read? cs).map fun (vs, rest) => (unitsOf c.toNat ++ vs, rest)
termination_by cs => cs.length
decreasing_by
  · obtain ⟨taken, rfl, -⟩ := escape?_eq_some ‹escape? cs = some (us, rest)›
    rw [List.length_cons, List.length_append]
    omega
  · exact Nat.lt_succ_self _

/-- **Plain texts** have no quote, no backslash, and no line end that a literal may not hold. -/
def IsPlain (cs : List Char) : Prop := ∀ c ∈ cs, c ≠ '\'' ∧ c ≠ '\\' ∧ c ≠ '\n' ∧ c ≠ '\r'

instance (cs : List Char) : Decidable (IsPlain cs) := List.decidableBAll _ cs

/-- A text is plain if both of its halves are: what makes it so is asked of each character. -/
theorem isPlain_append {cs ds : List Char} : IsPlain (cs ++ ds) ↔ IsPlain cs ∧ IsPlain ds :=
  List.forall_mem_append

/-- Reading goes on after a character that stands for itself. -/
theorem read?_cons {c : Char} (h : IsPlain [c]) (cs : List Char) :
    read? (c :: cs) = (read? cs).map fun (vs, rest) => (unitsOf c.toNat ++ vs, rest) := by
  obtain ⟨hquote, hbackslash, hfeed, hreturn⟩ := List.forall_mem_singleton.mp h
  rw [read?, if_neg hquote, if_neg hbackslash, if_neg (by simp [hfeed, hreturn])]

/-- Plain texts are read as themselves. -/
theorem read?_of_isPlain {cs : List Char} (h : IsPlain cs) (rest : List Char) :
    read? (cs ++ '\'' :: rest) = some (units cs, rest) := by
  induction cs with
  | nil => rw [List.nil_append, read?, if_pos rfl]; rfl
  | cons c cs ih =>
    obtain ⟨hc, hcs⟩ := List.forall_mem_cons.mp h
    rw [List.cons_append, read?_cons (List.forall_mem_singleton.mpr hc), ih hcs]
    rfl

/-- **What is read**: the literal ends at a quote, and either the text before it is plain and the
value is that text, or the value has fewer units than that text. -/
theorem read?_eq_some {us : List Nat} {cs rest : List Char} (h : read? cs = some (us, rest)) :
    ∃ inside, cs = inside ++ '\'' :: rest ∧
      (IsPlain inside ∧ us = units inside ∨ us.length < (units inside).length) := by
  fun_induction read? cs generalizing us rest with
  | case1 => cases h
  | case2 cs =>
    obtain ⟨rfl, rfl⟩ := Prod.mk.inj (Option.some.inj h)
    exact ⟨[], rfl, .inl ⟨List.forall_mem_nil _, rfl⟩⟩
  | case3 => cases h
  | case4 cs escaped after hescape _ ih =>
    obtain ⟨⟨vs, _⟩, hvs, heq⟩ := Option.map_eq_some_iff.mp h
    cases heq
    obtain ⟨taken, rfl, htaken⟩ := escape?_eq_some hescape
    obtain ⟨inside, rfl, hinside⟩ := ih hvs
    -- the backslash is a unit of the text and none of the value
    refine ⟨'\\' :: taken ++ inside, by simp, .inr ?_⟩
    have hvalue : vs.length ≤ (units inside).length := by
      rcases hinside with ⟨-, rfl⟩ | hlt
      · exact Nat.le_refl _
      · exact Nat.le_of_lt hlt
    have hbackslash := one_le_length_unitsOf ('\\').toNat
    rw [units_append, units_cons, List.length_append, List.length_append, List.length_append]
    omega
  | case5 => cases h
  | case6 c cs hquote hbackslash hline ih =>
    obtain ⟨⟨vs, _⟩, hvs, heq⟩ := Option.map_eq_some_iff.mp h
    cases heq
    obtain ⟨inside, rfl, hinside⟩ := ih hvs
    refine ⟨c :: inside, rfl, hinside.imp ?_ ?_⟩
    · rintro ⟨hplain, rfl⟩
      obtain ⟨hfeed, hreturn⟩ := not_or.mp hline
      exact ⟨List.forall_mem_cons.mpr ⟨⟨hquote, hbackslash, hfeed, hreturn⟩, hplain⟩, rfl⟩
    · intro hlt
      rw [units_cons, List.length_append, List.length_append]
      omega

/-- An escaped quote does not end the literal, and no escape is as long as it is written. -/
example : read? "it\\'s \\x41' + rest".toList = some (units "it's A".toList, " + rest".toList) := by
  cbv

/-- **Only plain texts are read as themselves.** A text between single quotes is a literal that ends at
the quote after the text and stands for the text, exactly if it is plain. -/
theorem read?_append_quote_iff {cs rest : List Char} :
    read? (cs ++ '\'' :: rest) = some (units cs, rest) ↔ IsPlain cs := by
  refine ⟨fun h => ?_, fun h => read?_of_isPlain h rest⟩
  obtain ⟨inside, heq, hinside⟩ := read?_eq_some h
  obtain rfl := List.append_cancel_right heq
  rcases hinside with ⟨hplain, -⟩ | hlt
  · exact hplain
  · exact absurd hlt (Nat.lt_irrefl _)

end ApiScaffold.Literal
