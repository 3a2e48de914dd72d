import ApiScaffold.Proofs.Literal.Escape

/-!
# How literals are read

A literal is a quoted text, an array or object in brackets, or a bare word: `null`, a truth value or a
number. `Value.read?` reads one with an explicit stack of the arrays and objects that are still open, so
what it does after a value depends on that stack and on the rest of the text alone. Each step of reading
has a lemma; `IsApart` says where a bare word ends.

Numbers are not read further: a `Value` holds the text of a number, so two numbers are the same here if
they are written in the same way.
-/

namespace ApiScaffold

namespace Literal

/-! ### Values -/

/-- **What a literal denotes.** Of a number only the text is known. -/
inductive Value where
  | null
  | bool (value : Bool)
  | number (text : String)
  | str (value : String)
  | arr (items : List Value)
  | obj (fields : List (String × Value))
  deriving Inhabited, BEq, Repr

/-- A bare key is a character that may start it and others that may go on. -/
theorem exists_of_isBareKey {key : String} (h : isBareKey key = true) :
    ∃ c cs, key.toList = c :: cs ∧ startsKey c = true ∧ ∀ d ∈ cs, continuesKey d = true := by
  unfold isBareKey at h
  split at h
  · cases h
  · next c cs hkey =>
    obtain ⟨hc, hcs⟩ := Bool.and_eq_true_iff.mp h
    exact ⟨c, cs, hkey, hc, List.all_eq_true.mp hcs⟩

namespace Value

/-! ### Words and keys -/

/-- The characters of bare words. -/
def isWordChar (c : Char) : Bool := c.isAlphanum || c = '-' || c = '+' || c = '.'

/-- The characters that numbers are written with. -/
def isNumberChar (c : Char) : Bool := c.isDigit || c = '-' || c = '+' || c = '.' || c = 'e'

/-- **A bare word**: `null`, a truth value, or else a number. -/
def ofWord? (word : List Char) : Option Value :=
  if word = "null".toList then some .null
  else if word = "true".toList then some (.bool true)
  else if word = "false".toList then some (.bool false)
  else if word.all isNumberChar then some (.number (String.ofList word))
  else none

/-- The name of a field, an identifier or a quoted text, and what follows it. -/
def name? : List Char → Option (String × List Char)
  | [] => none
  | c :: cs =>
    if c = '\'' then (unquote? cs).map fun (name, rest) => (String.ofList name, rest)
    else if startsKey c then
      some (String.ofList (c :: cs.takeWhile continuesKey), cs.dropWhile continuesKey)
    else none

/-- Reading a name takes at least a character. This is what the reader's recursion rests on. -/
theorem length_of_name? {cs rest : List Char} {name : String} (h : name? cs = some (name, rest)) :
    rest.length < cs.length := by
  cases cs with
  | nil => cases h
  | cons c cs =>
    rw [name?] at h
    split_ifs at h
    · obtain ⟨⟨text, left⟩, hleft, heq⟩ := Option.map_eq_some_iff.mp h
      cases heq
      exact Nat.lt_succ_of_lt (length_of_unquote? hleft)
    · cases h
      exact Nat.lt_succ_of_le (List.dropWhile_suffix _).length_le

/-! ### Reading -/

/-- **An array or object that is still open**, with what was read of it, the last first. -/
inductive Frame where
  | array (before : List Value)
  | object (before : List (String × Value)) (key : String)

mutual

/-- **Reads a value** inside of open arrays and objects, the innermost first. -/
def readIn? (frames : List Frame) : List Char → Option Value
  | [] => none
  | c :: cs =>
    if c = '\'' then
      match _ : unquote? cs with
      | some (text, rest) => readAfter? frames (.str (String.ofList text)) rest
      | none => none
    else if c = '[' then readItems? frames cs
    else if c = '\x7b' then readFields? frames cs
    else if isWordChar c then
      match ofWord? (c :: cs.takeWhile isWordChar) with
      | some v => readAfter? frames v (cs.dropWhile isWordChar)
      | none => none
    else none
termination_by cs => cs.length
decreasing_by
  · exact Nat.lt_succ_of_lt (length_of_unquote? ‹unquote? cs = some (text, rest)›)
  · exact Nat.lt_succ_self _
  · exact Nat.lt_succ_self _
  · exact Nat.lt_succ_of_le (List.dropWhile_suffix _).length_le

/-- Reads an array after its opening bracket. -/
def readItems? (frames : List Frame) : List Char → Option Value
  | ']' :: rest => readAfter? frames (.arr []) rest
  | ' ' :: rest => readIn? (.array [] :: frames) rest
  | _ => none
termination_by cs => cs.length

/-- Reads an object after its opening brace. -/
def readFields? (frames : List Frame) : List Char → Option Value
  | '\x7d' :: rest => readAfter? frames (.obj []) rest
  | ' ' :: rest => readField? frames [] rest
  | _ => none
termination_by cs => cs.length

/-- Reads a field of an object and what follows; `before` holds the fields before it. -/
def readField? (frames : List Frame) (before : List (String × Value)) (cs : List Char) :
    Option Value :=
  match _ : name? cs with
  | some (key, ':' :: ' ' :: rest) => readIn? (.object before key :: frames) rest
  | _ => none
termination_by cs.length
decreasing_by
  · have hlt := length_of_name? ‹name? cs = some (key, ':' :: ' ' :: rest)›
    simp only [List.length_cons] at hlt
    omega

/-- Goes on after a value: it is one more item or field of the innermost frame, or the result. -/
def readAfter? (frames : List Frame) (v : Value) (cs : List Char) : Option Value :=
  match frames, cs with
  | [], [] => some v
  | .array before :: frames, ',' :: ' ' :: rest => readIn? (.array (v :: before) :: frames) rest
  | .array before :: frames, ' ' :: ']' :: rest =>
    readAfter? frames (.arr (v :: before).reverse) rest
  | .object before key :: frames, ',' :: ' ' :: rest => readField? frames ((key, v) :: before) rest
  | .object before key :: frames, ' ' :: '\x7d' :: rest =>
    readAfter? frames (.obj ((key, v) :: before).reverse) rest
  | _, _ => none
termination_by cs.length

end

/-- **Reads a literal**, all of a text. -/
def read? (text : String) : Option Value := readIn? [] text.toList

/-! ### Steps of reading -/

variable {frames : List Frame} {rest : List Char} {v : Value}

/-- Whether a text does not go on with a word. -/
def IsApart (cs : List Char) : Prop := ∀ c ∈ cs.head?, isWordChar c = false

/-- An escaped text between quotes is read as the text, and reading goes on behind the closing quote. -/
theorem readIn?_quoted (cs rest : List Char) :
    readIn? frames ('\'' :: (escaped cs ++ '\'' :: rest)) =
      readAfter? frames (.str (String.ofList cs)) rest := by
  have h := unquote?_escaped cs rest
  rw [readIn?, if_pos rfl]
  split
  · next text left hleft =>
    rw [h] at hleft
    cases hleft
    rfl
  · next hnone =>
    rw [h] at hnone
    cases hnone

theorem readIn?_bracket (cs : List Char) : readIn? frames ('[' :: cs) = readItems? frames cs := by
  rw [readIn?, if_neg (by decide), if_pos rfl]

theorem readIn?_brace (cs : List Char) : readIn? frames ('\x7b' :: cs) = readFields? frames cs := by
  rw [readIn?, if_neg (by decide), if_neg (by decide), if_pos rfl]

/-- A run of characters ends where a stranger stands, so a word is taken as it was written. -/
theorem takeWhile_append_of_apart {p : Char → Bool} {cs rest : List Char} (h : ∀ c ∈ cs, p c = true)
    (hrest : ∀ c ∈ rest.head?, p c = false) : (cs ++ rest).takeWhile p = cs := by
  rw [List.takeWhile_append_of_pos h]
  cases rest with
  | nil => rw [List.takeWhile_nil, List.append_nil]
  | cons c rest => rw [List.takeWhile_cons_of_neg (by simp [hrest c rfl]), List.append_nil]

theorem dropWhile_append_of_apart {p : Char → Bool} {cs rest : List Char} (h : ∀ c ∈ cs, p c = true)
    (hrest : ∀ c ∈ rest.head?, p c = false) : (cs ++ rest).dropWhile p = rest := by
  rw [List.dropWhile_append_of_pos h]
  cases rest with
  | nil => rw [List.dropWhile_nil]
  | cons c rest => rw [List.dropWhile_cons_of_neg (by simp [hrest c rfl])]

/-- A word is read up to where no word goes on. -/
theorem readIn?_word {word : List Char} (hne : word ≠ []) (h : word.all isWordChar = true)
    (hv : ofWord? word = some v) (hrest : IsApart rest) :
    readIn? frames (word ++ rest) = readAfter? frames v rest := by
  obtain ⟨c, cs, rfl⟩ := List.exists_cons_of_ne_nil hne
  obtain ⟨hc, hcs⟩ := List.forall_mem_cons.mp (List.all_eq_true.mp h)
  have hspecial : c ≠ '\'' ∧ c ≠ '[' ∧ c ≠ '\x7b' := by
    refine ⟨?_, ?_, ?_⟩ <;> (rintro rfl; exact absurd hc (by decide))
  rw [List.cons_append, readIn?, if_neg hspecial.1, if_neg hspecial.2.1, if_neg hspecial.2.2, if_pos hc,
    takeWhile_append_of_apart hcs hrest, dropWhile_append_of_apart hcs hrest, hv]

/-- A field that has its name, a colon and a space goes on with its value. -/
theorem readField?_of_name? {before : List (String × Value)} {cs : List Char} {key : String}
    (h : name? cs = some (key, ':' :: ' ' :: rest)) :
    readField? frames before cs = readIn? (.object before key :: frames) rest := by
  rw [readField?]
  split
  · next key' rest' h' =>
    rw [h] at h'
    cases h'
    rfl
  · next hnone => exact absurd h (hnone _ _)

/-- A key is read back before its colon. -/
theorem name?_keyCode (key : String) (rest : List Char) :
    name? ((keyCode key).toList ++ ':' :: rest) = some (key, ':' :: rest) := by
  unfold keyCode
  split
  · next h =>
    obtain ⟨c, cs, hkey, hc, hcs⟩ := exists_of_isBareKey h
    have hquote : c ≠ '\'' := by
      rintro rfl
      exact absurd hc (by decide)
    have hcolon : ∀ d ∈ (':' :: rest).head?, continuesKey d = false := by
      simp [continuesKey]
    rw [hkey, List.cons_append, name?, if_neg hquote, if_pos hc,
      takeWhile_append_of_apart hcs hcolon, dropWhile_append_of_apart hcs hcolon, ← hkey,
      String.ofList_toList]
  · rw [toList_quote, List.cons_append, List.append_assoc, List.singleton_append, name?, if_pos rfl,
      unquote?_escaped, Option.map_some]
    simp only [String.ofList_toList]

end Value

end Literal

end ApiScaffold
