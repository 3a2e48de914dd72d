import ApiScaffold.Proofs.Expression
import ApiScaffold.Proofs.Literal.Value

/-!
# Literals are read back

The literal of a JSON value is read back as the value, less its hidden fields at every depth and with
each number as its text (`Value.read?_code`). The proof follows the nesting of the value. What carries it
is `Value.ReadsBack`: wherever the literal stands, inside of which arrays and objects and before which
text, reading goes on after it with what the value denotes.
-/

namespace ApiScaffold

namespace Literal

namespace Value

variable {frames : List Frame} {rest : List Char}

/-! ### Numbers -/

theorem isNumberChar_of_mem_toDigits {n : Nat} {c : Char} (h : c ∈ Nat.toDigits 10 n) :
    isNumberChar c = true := by
  have hdigit := Nat.isDigit_of_mem_toDigits (by decide) (by decide) h
  simp [isNumberChar, hdigit]

/-- Whether a text is written with the characters of numbers. -/
def IsNumberText (s : String) : Prop := ∀ c ∈ s.toList, isNumberChar c = true

instance (s : String) : Decidable (IsNumberText s) := List.decidableBAll _ s.toList

/-- A text of number characters is one in both of its halves. -/
theorem isNumberText_append {s t : String} :
    IsNumberText (s ++ t) ↔ IsNumberText s ∧ IsNumberText t := by
  rw [IsNumberText, String.toList_append]
  exact List.forall_mem_append

theorem isNumberText_nat (n : Nat) : IsNumberText n.repr := by
  intro c hc
  rw [Nat.toList_repr] at hc
  exact isNumberChar_of_mem_toDigits hc

theorem isNumberText_int (n : Int) : IsNumberText (toString n) := by
  cases n with
  | ofNat n => exact isNumberText_nat n
  | negSucc n => exact isNumberText_append.mpr ⟨by decide, isNumberText_nat _⟩

theorem isNumberText_zeros (n : Int) : IsNumberText (DecimalStyle.zeros n) := by
  intro c hc
  rw [DecimalStyle.zeros, String.toList_ofList] at hc
  rw [List.eq_of_mem_replicate hc]
  rfl

/-- An exponent is a mark, perhaps a sign, and digits. -/
theorem isNumberText_exponent (e : Int) : IsNumberText (DecimalStyle.json.exponentText e) := by
  rw [DecimalStyle.exponentText]
  split
  · exact isNumberText_append.mpr ⟨by decide, isNumberText_int e⟩
  · exact isNumberText_append.mpr ⟨by decide, isNumberText_int e⟩

/-- **A magnitude** in any of its layouts has nothing but digits, a point and an exponent. -/
theorem isNumberText_magnitude (digits : Nat) (k : Int) :
    IsNumberText (DecimalStyle.json.magnitude digits k) := by
  have hdigits : ∀ cs : List Char, cs ⊆ Nat.toDigits 10 digits → IsNumberText (String.ofList cs) := by
    intro cs hsub c hc
    rw [String.toList_ofList] at hc
    exact isNumberChar_of_mem_toDigits (hsub hc)
  have hall := hdigits _ (List.Subset.refl _)
  rw [DecimalStyle.magnitude]
  split
  · exact isNumberText_append.mpr ⟨isNumberText_append.mpr ⟨hall, isNumberText_zeros k⟩, by decide⟩
  split
  · refine isNumberText_append.mpr ⟨isNumberText_append.mpr ⟨?_, by decide⟩, ?_⟩
    · exact hdigits _ (List.take_subset _ _)
    · exact hdigits _ (List.drop_subset _ _)
  split
  · exact isNumberText_append.mpr
      ⟨isNumberText_append.mpr ⟨by decide, isNumberText_zeros _⟩, hall⟩
  split
  · next d heq =>
    rw [heq] at hall
    exact isNumberText_append.mpr ⟨hall, isNumberText_exponent _⟩
  · next d rest _ heq =>
    rw [heq] at hdigits
    refine isNumberText_append.mpr
      ⟨isNumberText_append.mpr ⟨isNumberText_append.mpr ⟨?_, by decide⟩, ?_⟩, ?_⟩
    · exact hdigits [d] (by simp)
    · exact hdigits rest (List.subset_cons_self _ _)
    · exact isNumberText_exponent _
  · decide

/-- So has a printed number with its sign. None of these characters can end a word early. -/
theorem isNumberText_float (x : Binary64) : IsNumberText (Json.numberText x) := by
  rw [Json.numberText, DecimalStyle.render]
  dsimp only
  have hsign : IsNumberText (if x.negative then "-" else "") := by
    split <;> decide
  split
  · exact isNumberText_append.mpr ⟨isNumberText_append.mpr ⟨hsign, by decide⟩, by decide⟩
  · exact isNumberText_append.mpr ⟨hsign, isNumberText_magnitude _ _⟩

/-- A number is read as its text. -/
theorem readIn?_number {s : String} (hne : s ≠ "") (h : IsNumberText s) (hrest : IsApart rest) :
    readIn? frames (s.toList ++ rest) = readAfter? frames (.number s) rest := by
  have hword : ∀ c, isNumberChar c = true → isWordChar c = true := by
    intro c hc
    simp only [isNumberChar, isWordChar, Char.isAlphanum, Bool.or_eq_true, decide_eq_true_eq] at hc ⊢
    rcases hc with (((hc | hc) | hc) | hc) | rfl
    · simp [hc]
    · simp [hc]
    · simp [hc]
    · simp [hc]
    · decide
  have hall : s.toList.all isWordChar = true := List.all_eq_true.mpr fun c hc => hword c (h c hc)
  refine readIn?_word (by simpa using hne) hall ?_ hrest
  have hnot : ∀ w : List Char, w.all isNumberChar = false → s.toList ≠ w := by
    rintro w hw rfl
    rw [List.all_eq_true.mpr h] at hw
    cases hw
  rw [ofWord?, if_neg (hnot _ (by decide)), if_neg (hnot _ (by decide)), if_neg (hnot _ (by decide)),
    if_pos (List.all_eq_true.mpr h), String.ofList_toList]

end Value

/-! ### What a literal keeps of a value -/

mutual

/-- **A value without its hidden fields**, at every depth. -/
def visible : Json → Json
  | .arr items => .arr (visibleItems items)
  | .obj fields => .obj (visibleFields fields)
  | v => v

/-- Items without their hidden fields. -/
def visibleItems : List Json → List Json
  | [] => []
  | v :: rest => visible v :: visibleItems rest

/-- Fields without the hidden ones among them. -/
def visibleFields : List (String × Json) → List (String × Json)
  | [] => []
  | (k, v) :: rest =>
    if isHidden k then visibleFields rest else (k, visible v) :: visibleFields rest

end

mutual

/-- **What a value denotes**, with each number as its text. -/
def denoted : Json → Value
  | .null => .null
  | .bool b => .bool b
  | .int n => .number (toString n)
  | .float x => .number (Json.numberText x)
  | .str s => .str s
  | .arr items => .arr (denotedItems items)
  | .obj fields => .obj (denotedFields fields)

/-- What items denote. -/
def denotedItems : List Json → List Value
  | [] => []
  | v :: rest => denoted v :: denotedItems rest

/-- What fields denote. -/
def denotedFields : List (String × Json) → List (String × Value)
  | [] => []
  | (k, v) :: rest => (k, denoted v) :: denotedFields rest

end

/-- **The fields that are not hidden.** -/
def shownFields (fields : List (String × Json)) : List (String × Json) :=
  fields.filter fun f => !isHidden f.1

/-- Hidden fields are left out, all others are kept in their order. -/
theorem shownFields_cons (f : String × Json) (rest : List (String × Json)) :
    shownFields (f :: rest) = if isHidden f.1 then shownFields rest else f :: shownFields rest := by
  rw [shownFields, List.filter_cons]
  cases isHidden f.1 <;> rfl

/-- The code of a field. -/
def fieldCode (f : String × Json) : String := keyCode f.1 ++ ": " ++ code f.2

theorem itemCodes_eq_map (items : List Json) : itemCodes items = items.map code := by
  induction items with
  | nil => rfl
  | cons v rest ih => rw [itemCodes, ih, List.map_cons]

/-- The codes of fields are those of the fields that are shown. -/
theorem fieldCodes_eq_map (fields : List (String × Json)) :
    fieldCodes fields = (shownFields fields).map fieldCode := by
  induction fields with
  | nil => rfl
  | cons f rest ih =>
    rw [fieldCodes, ih, shownFields_cons]
    split <;> rfl

theorem visibleItems_eq_map (items : List Json) : visibleItems items = items.map visible := by
  induction items with
  | nil => rfl
  | cons v rest ih => rw [visibleItems, ih, List.map_cons]

/-- Of an object it is what is visible of the fields that are shown. -/
theorem visibleFields_eq_map (fields : List (String × Json)) :
    visibleFields fields = (shownFields fields).map fun f => (f.1, visible f.2) := by
  induction fields with
  | nil => rfl
  | cons f rest ih =>
    rw [visibleFields, ih, shownFields_cons]
    split <;> rfl

theorem denotedItems_eq_map (items : List Json) : denotedItems items = items.map denoted := by
  induction items with
  | nil => rfl
  | cons v rest ih => rw [denotedItems, ih, List.map_cons]

theorem denotedFields_eq_map (fields : List (String × Json)) :
    denotedFields fields = fields.map fun f => (f.1, denoted f.2) := by
  induction fields with
  | nil => rfl
  | cons f rest ih => rw [denotedFields, ih, List.map_cons]

/-- What an array denotes once hidden fields are gone, item by item. -/
theorem denoted_visible_arr (items : List Json) :
    denoted (visible (.arr items)) = .arr (items.map fun v => denoted (visible v)) := by
  rw [visible, denoted, visibleItems_eq_map, denotedItems_eq_map, List.map_map]
  rfl

/-- And what an object denotes then: hidden fields are gone at every level. -/
theorem denoted_visible_obj (fields : List (String × Json)) :
    denoted (visible (.obj fields)) =
      .obj ((shownFields fields).map fun f => (f.1, denoted (visible f.2))) := by
  rw [visible, denoted, visibleFields_eq_map, denotedFields_eq_map, List.map_map]
  rfl

/-! ### Parts in brackets -/

/-- Texts that go on a list, each after a comma. -/
def continued (codes : List String) : List Char := codes.flatMap fun s => ',' :: ' ' :: s.toList

/-- The codes after the first one each follow a comma and a space. -/
theorem toList_join_comma (s : String) (codes : List String) :
    (Text.join ", " (s :: codes)).toList = s.toList ++ continued codes := by
  induction codes generalizing s with
  | nil => simp [Text.join, continued]
  | cons t codes ih =>
    rw [Text.join, String.toList_append, String.toList_append, ih, List.append_assoc]
    rfl

/-- **Code of an array** with items: they stand in brackets, with a space inside each bracket and a
comma between two. -/
theorem toList_code_arr (v : Json) (items : List Json) :
    (code (.arr (v :: items))).toList =
      '[' :: ' ' :: ((code v).toList ++ (continued (items.map code) ++ [' ', ']'])) := by
  rw [code, itemCodes_eq_map, List.map_cons, String.toList_append, String.toList_append,
    toList_join_comma, List.append_assoc, List.append_assoc]
  rfl

/-- **Code of an object** with fields that are not hidden. -/
theorem toList_code_obj {fields rest : List (String × Json)} {f : String × Json}
    (h : shownFields fields = f :: rest) :
    (code (.obj fields)).toList =
      '\x7b' :: ' ' :: ((fieldCode f).toList ++ (continued (rest.map fieldCode) ++ [' ', '\x7d'])) := by
  rw [code, fieldCodes_eq_map, h, List.map_cons, String.toList_append, String.toList_append,
    toList_join_comma, List.append_assoc, List.append_assoc]
  rfl

/-- A field is its key, a colon, a space and the code of its value. -/
theorem toList_fieldCode (f : String × Json) :
    (fieldCode f).toList = (keyCode f.1).toList ++ ':' :: ' ' :: (code f.2).toList := by
  rw [fieldCode, String.toList_append, String.toList_append, List.append_assoc]
  rfl

/-! ### Reading back -/

namespace Value

variable {frames : List Frame} {rest : List Char}

/-- Whether the code of a value is read back wherever it stands. -/
def ReadsBack (v : Json) : Prop :=
  ∀ (frames : List Frame) (rest : List Char), IsApart rest →
    readIn? frames ((code v).toList ++ rest) = readAfter? frames (denoted (visible v)) rest

/-- A character outside words keeps apart what stands before it. -/
theorem isApart_cons {c : Char} (h : isWordChar c = false) (cs : List Char) : IsApart (c :: cs) := by
  intro d hd
  obtain rfl := Option.some.inj hd
  exact h

/-- What may follow an item, a comma or the end of the array, keeps apart from it in either case. -/
theorem isApart_continued (codes : List String) (c : Char) (rest : List Char) :
    IsApart (continued codes ++ ' ' :: c :: rest) := by
  cases codes with
  | nil => exact isApart_cons rfl _
  | cons s codes => exact isApart_cons rfl _

/-- Reading goes on through all items to the end of their array. -/
theorem readAfter?_continued_items {items : List Json} (h : ∀ v ∈ items, ReadsBack v)
    (before : List Value) (first : Value) :
    readAfter? (.array before :: frames) first
        (continued (items.map code) ++ ' ' :: ']' :: rest) =
      readAfter? frames
        (.arr (before.reverse ++ first :: items.map fun v => denoted (visible v))) rest := by
  induction items generalizing before first with
  | nil =>
    change readAfter? _ _ (' ' :: ']' :: rest) = _
    rw [readAfter?, List.reverse_cons, List.map_nil]
  | cons v items ih =>
    obtain ⟨hv, hitems⟩ := List.forall_mem_cons.mp h
    change readAfter? _ _ (',' :: ' ' :: ((code v).toList ++ continued (items.map code)) ++ _) = _
    rw [List.cons_append, List.cons_append, readAfter?, List.append_assoc,
      hv _ _ (isApart_continued _ _ _), ih hitems, List.reverse_cons, List.append_assoc,
      List.map_cons, List.singleton_append]

/-- A field is read back: its key, and then its value. -/
theorem readField?_fieldCode {f : String × Json} (h : ReadsBack f.2) (before : List (String × Value))
    (hrest : IsApart rest) :
    readField? frames before ((fieldCode f).toList ++ rest) =
      readAfter? (.object before f.1 :: frames) (denoted (visible f.2)) rest := by
  rw [toList_fieldCode, List.append_assoc, List.cons_append, List.cons_append,
    readField?_of_name? (name?_keyCode _ _), h _ _ hrest]

/-- Reading goes on through all fields to the end of their object. -/
theorem readAfter?_continued_fields {fields : List (String × Json)} (h : ∀ f ∈ fields, ReadsBack f.2)
    (before : List (String × Value)) (key : String) (first : Value) :
    readAfter? (.object before key :: frames) first
        (continued (fields.map fieldCode) ++ ' ' :: '\x7d' :: rest) =
      readAfter? frames
        (.obj (before.reverse ++ (key, first) :: fields.map fun f => (f.1, denoted (visible f.2))))
        rest := by
  induction fields generalizing before key first with
  | nil =>
    change readAfter? _ _ (' ' :: '\x7d' :: rest) = _
    rw [readAfter?, List.reverse_cons, List.map_nil]
  | cons f fields ih =>
    obtain ⟨hf, hfields⟩ := List.forall_mem_cons.mp h
    change readAfter? _ _
      (',' :: ' ' :: ((fieldCode f).toList ++ continued (fields.map fieldCode)) ++ _) = _
    rw [List.cons_append, List.cons_append, readAfter?, List.append_assoc,
      readField?_fieldCode hf _ (isApart_continued _ _ _), ih hfields, List.reverse_cons,
      List.append_assoc, List.map_cons, List.singleton_append]

/-- **The code of every value is read back**, whatever is open around it. This is said of all frames at
once, since the induction goes through values that are nested in others. -/
theorem readsBack (v : Json) : ReadsBack v := by
  intro frames rest hrest
  induction v using Json.induct generalizing frames rest with
  | null =>
    exact readIn?_word (by decide) (by decide) rfl hrest
  | bool b =>
    cases b <;> exact readIn?_word (by decide) (by decide) rfl hrest
  | int n =>
    exact readIn?_number (Json.toString_int_ne_empty n) (isNumberText_int n) hrest
  | float x =>
    exact readIn?_number (Json.numberText_ne_empty x) (isNumberText_float x) hrest
  | str s =>
    rw [code, toList_quote, List.cons_append, List.append_assoc, List.singleton_append,
      readIn?_quoted, String.ofList_toList]
    rfl
  | arr items ih =>
    rw [denoted_visible_arr]
    cases items with
    | nil =>
      change readIn? frames ('[' :: ']' :: rest) = _
      rw [readIn?_bracket, readItems?]
      rfl
    | cons v items =>
      obtain ⟨hv, hitems⟩ := List.forall_mem_cons.mp ih
      rw [toList_code_arr]
      simp only [List.cons_append, List.append_assoc, List.nil_append]
      rw [readIn?_bracket, readItems?, hv _ _ (isApart_continued _ _ _),
        readAfter?_continued_items hitems]
      rfl
  | obj fields ih =>
    rw [denoted_visible_obj]
    -- a hidden field is not written, so its value is not read either
    have hshown : ∀ f ∈ shownFields fields, ReadsBack f.2 :=
      fun f hf => ih f (List.mem_filter.mp hf).1
    rcases hfields : shownFields fields with _ | ⟨f, more⟩
    · have hcode : code (.obj fields) = "\x7b\x7d" := by
        rw [code, fieldCodes_eq_map, hfields]
        rfl
      rw [hcode]
      change readIn? frames ('\x7b' :: '\x7d' :: rest) = _
      rw [readIn?_brace, readFields?]
      rfl
    · rw [hfields] at hshown
      obtain ⟨hf, hmore⟩ := List.forall_mem_cons.mp hshown
      rw [toList_code_obj hfields]
      simp only [List.cons_append, List.append_assoc, List.nil_append]
      rw [readIn?_brace, readFields?, readField?_fieldCode hf _ (isApart_continued _ _ _),
        readAfter?_continued_fields hmore]
      rfl

/-- **Reading the literal of a value** gives what the value denotes without its hidden fields. -/
theorem read?_code (v : Json) : read? (code v) = some (denoted (visible v)) := by
  have h := readsBack v [] [] (fun _ hc => by cases hc)
  rw [List.append_nil, readAfter?] at h
  exact h

/-- Quotes in a text, a key that is no name, a hidden field and a number. -/
example : read? (code (.obj [("x-tag", .str "it's"), ("_rev", .null), ("id", .arr [.int (-7)])])) =
    some (.obj [("x-tag", .str "it's"), ("id", .arr [.number "-7"])]) :=
  read?_code _

end Value

/-! ### Quotes -/

/-- The code of what is no string starts with another character than a quote. -/
theorem exists_code_cons {v : Json} (h : ∀ s, v ≠ .str s) :
    ∃ c rest, (code v).toList = c :: rest ∧ c ≠ '\'' := by
  have hnumber : ∀ s : String, s ≠ "" → Value.IsNumberText s →
      ∃ c rest, s.toList = c :: rest ∧ c ≠ '\'' := by
    intro s hne hs
    obtain ⟨c, rest, heq⟩ := List.exists_cons_of_ne_nil (mt String.toList_eq_nil_iff.mp hne)
    refine ⟨c, rest, heq, ?_⟩
    rintro rfl
    exact absurd (hs '\'' (heq ▸ List.mem_cons_self ..)) (by decide)
  cases v with
  | null => exact ⟨'n', _, rfl, by decide⟩
  | bool b =>
    cases b with
    | false => exact ⟨'f', _, rfl, by decide⟩
    | true => exact ⟨'t', _, rfl, by decide⟩
  | int n => exact hnumber _ (Json.toString_int_ne_empty n) (Value.isNumberText_int n)
  | float x => exact hnumber _ (Json.numberText_ne_empty x) (Value.isNumberText_float x)
  | str s => exact absurd rfl (h s)
  | arr items =>
    cases items with
    | nil => exact ⟨'[', _, rfl, by decide⟩
    | cons v items => exact ⟨'[', _, toList_code_arr v items, by decide⟩
  | obj fields =>
    rcases hfields : shownFields fields with _ | ⟨f, rest⟩
    · rw [code, fieldCodes_eq_map, hfields]
      exact ⟨'\x7b', _, rfl, by decide⟩
    · exact ⟨'\x7b', _, toList_code_obj hfields, by decide⟩

/-- **Only strings open with a quote.** Numbers and names start with a character of words, arrays and
objects with a bracket. -/
theorem head?_code_eq_quote_iff (v : Json) :
    (code v).toList.head? = some '\'' ↔ ∃ s, v = .str s := by
  constructor
  · intro hquote
    refine Classical.byContradiction fun h => ?_
    obtain ⟨c, rest, heq, hc⟩ := exists_code_cons fun s hs => h ⟨s, hs⟩
    rw [heq] at hquote
    exact hc (Option.some.inj hquote)
  · rintro ⟨s, rfl⟩
    rw [code, toList_quote]
    rfl

/-- **Literals decode.** Reading the literal of a value takes all of its text and gives the value less
its hidden fields, items and fields in their order and each number as its text. So values without
hidden fields that have one literal are the same but for the spelling of numbers; and of all values the
strings alone are written in single quotes, or open with one. -/
theorem literals_decode :
    (∀ v, Value.read? (code v) = some (denoted (visible v))) ∧
    (∀ v w, visible v = v → visible w = w → code v = code w → denoted v = denoted w) ∧
    ∀ v, ((∃ s, code v = quote s) ↔ ∃ s, v = .str s) ∧
      ((code v).toList.head? = some '\'' ↔ ∃ s, v = .str s) := by
  refine ⟨Value.read?_code, fun v w hv hw hcode => ?_, fun v => ⟨⟨?_, ?_⟩, head?_code_eq_quote_iff v⟩⟩
  · have hread := Value.read?_code v
    rw [hcode, Value.read?_code w, hv, hw] at hread
    exact (Option.some.inj hread).symm
  · rintro ⟨s, hs⟩
    refine (head?_code_eq_quote_iff v).mp ?_
    rw [hs, toList_quote]
    rfl
  · rintro ⟨s, rfl⟩
    exact ⟨s, rfl⟩

end Literal

end ApiScaffold
