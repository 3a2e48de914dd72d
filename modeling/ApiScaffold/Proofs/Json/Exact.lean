import ApiScaffold.Proofs.Json.NumberText
import ApiScaffold.Proofs.Json.Spelled

/-!
# JSON text read exactly

`Lexeme.read?` reads a JSON text by the letter of the format: numbers have their exact values
(`NumberText.exactValue?`), and arrays and objects may be nested to any depth and repeat their keys. It reads each
lexeme on its own (`Lexeme.token?`), so two texts with the same lexemes read the same.

The lexemes of a printed value are read as the value (`Lexeme.value?_lexemes`), if the value has no other numbers
than there are (`IsProper`).
-/

namespace ApiScaffold.Json

/-- **Proper values**: their numbers other than integers are binary64 numbers in their normal form. A printed number
is read as itself only if it is one, and readers make no others. -/
inductive IsProper : Json → Prop
  | null : IsProper .null
  | bool (b : Bool) : IsProper (.bool b)
  | int (n : Int) : IsProper (.int n)
  | float {x : Binary64} (h : x.IsCanonical) : IsProper (.float x)
  | str (s : String) : IsProper (.str s)
  | arr {items : List Json} (h : ∀ v ∈ items, IsProper v) : IsProper (.arr items)
  | obj {fields : List (String × Json)} (h : ∀ f ∈ fields, IsProper f.2) : IsProper (.obj fields)

/-! ### Trees -/

mutual

/-- **Value of a tree**, if all of its leaves and keys can be read. -/
def Tree.value? : Tree → Option Json
  | .null => some .null
  | .bool b => some (.bool b)
  | .number (some (.int n)) => some (.int n)
  | .number (some (.float x)) => some (.float x)
  | .number none => none
  | .string s => s.map .str
  | .array items => (Tree.itemValues? items).map .arr
  | .object fields => (Tree.fieldValues? fields).map .obj

/-- Values of items. -/
def Tree.itemValues? : List Tree → Option (List Json)
  | [] => some []
  | t :: rest => t.value?.bind fun v => (Tree.itemValues? rest).map (v :: ·)

/-- Values of fields, with their keys. -/
def Tree.fieldValues? : List (Option String × Tree) → Option (List (String × Json))
  | [] => some []
  | (k, t) :: rest =>
    k.bind fun k => t.value?.bind fun v => (Tree.fieldValues? rest).map ((k, v) :: ·)

end

/-- Trees of items are read item by item. -/
theorem itemValues?_itemTrees {items : List Json} (h : ∀ v ∈ items, (tree v).value? = some v) :
    Tree.itemValues? (itemTrees items) = some items := by
  induction items with
  | nil => rfl
  | cons v rest ih =>
    obtain ⟨hv, hrest⟩ := List.forall_mem_cons.mp h
    rw [itemTrees, Tree.itemValues?, hv, ih hrest]
    rfl

/-- Trees of fields are read field by field, and keys are taken as they are. -/
theorem fieldValues?_fieldTrees {fields : List (String × Json)}
    (h : ∀ f ∈ fields, (tree f.2).value? = some f.2) :
    Tree.fieldValues? (fieldTrees fields) = some fields := by
  induction fields with
  | nil => rfl
  | cons f rest ih =>
    obtain ⟨k, v⟩ := f
    obtain ⟨hv, hrest⟩ := List.forall_mem_cons.mp h
    rw [fieldTrees, Tree.fieldValues?, hv, ih hrest]
    rfl

/-- **The tree of a value is the value's**: the exact reader has no limit on depth and keeps keys that
are repeated. -/
theorem value?_tree (v : Json) : (tree v).value? = some v := by
  induction v using Json.induct with
  | arr items ih =>
    rw [tree, Tree.value?, itemValues?_itemTrees ih]
    rfl
  | obj fields ih =>
    rw [tree, Tree.value?, fieldValues?_fieldTrees ih]
    rfl
  | _ =>
    rw [tree]
    rfl

/-! ### Lexemes -/

namespace Lexeme

/-- The token of a word: a name or a number. -/
def wordToken? (cs : List Char) : Option Token :=
  if cs = ['n', 'u', 'l', 'l'] then some .null
  else if cs = ['t', 'r', 'u', 'e'] then some (.bool true)
  else if cs = ['f', 'a', 'l', 's', 'e'] then some (.bool false)
  else (NumberText.ofChars? cs).bind fun n => n.exactValue?.map fun v => .number (some v)

/-- The token of a string, if its escapes are those of the format. -/
def stringToken? (cs : List Char) : Option Token :=
  match Token.scan? ('"' :: cs ++ ['"']) with
  | some [.string (some s)] => some (.string (some s))
  | _ => none

/-- **Token of a lexeme.** -/
def token? : Lexeme → Option Token
  | .mark c => Token.punctuation? c
  | .word cs => wordToken? cs
  | .string cs => stringToken? cs

/-- **Value of lexemes.** -/
def value? (ls : List Lexeme) : Option Json :=
  ((ls.mapM token?).bind Tree.ofTokens?).bind Tree.value?

/-- **Value of a text**, read exactly. -/
def read? (text : String) : Option Json := (scan? text.toList).bind value?

/-! ### Printed values -/

/-- An escaped text is the text between its quotes, so a printed string is read as the string. -/
theorem stringToken?_escaped (s : String) :
    stringToken? (s.toList.flatMap escapeChar) = some (.string (some s)) := by
  have hscan := (Token.ends_quoted s).scans.scan?
  rw [quoted, String.toList_ofList] at hscan
  rw [stringToken?, hscan]

/-- A number text that is none of the three names is read as its exact value. -/
theorem wordToken?_of_ofChars? {cs : List Char} {n : NumberText} {v : NumberValue}
    (h : NumberText.ofChars? cs = some n) (hv : n.exactValue? = some v) :
    wordToken? cs = some (.number (some v)) := by
  have hne (name : List Char) (hname : NumberText.ofChars? name = none) : cs ≠ name := by
    rintro rfl
    rw [h] at hname
    cases hname
  rw [wordToken?, if_neg (hne _ rfl), if_neg (hne _ rfl), if_neg (hne _ rfl), h, Option.bind_some, hv]
  rfl

/-- **Integers are read as they are printed**, whatever their size. The exact reader has no range for
them, unlike the quick one. -/
theorem wordToken?_toString (n : Int) :
    wordToken? (toString n).toList = some (.number (some (.int n))) := by
  cases n with
  | ofNat n =>
    have htext : (toString (Int.ofNat n)).toList = Nat.toDigits 10 n := Nat.toList_repr
    rw [htext]
    refine wordToken?_of_ofChars? (NumberText.ofChars?_toDigits n).1 ?_
    simp [NumberText.exactValue?, digitsValue_toDigits]
  | negSucc n =>
    have htext : (toString (Int.negSucc n)).toList = '-' :: Nat.toDigits 10 (n + 1) := by
      have hrepr : (Nat.repr (n + 1)).toList = Nat.toDigits 10 (n + 1) := Nat.toList_repr
      rw [← hrepr]
      exact String.toList_append
    rw [htext]
    refine wordToken?_of_ofChars? (NumberText.ofChars?_toDigits (n + 1)).2 ?_
    simp [NumberText.exactValue?, digitsValue_toDigits, Int.negSucc_eq]

theorem mapM_token?_append {ls us : List Lexeme} {ts vs : List Token} (h : ls.mapM token? = some ts)
    (hmore : us.mapM token? = some vs) : (ls ++ us).mapM token? = some (ts ++ vs) := by
  rw [List.mapM_append, h, hmore]
  rfl

theorem mapM_token?_cons {l : Lexeme} {ls : List Lexeme} {t : Token} {ts : List Token}
    (h : token? l = some t) (hmore : ls.mapM token? = some ts) :
    (l :: ls).mapM token? = some (t :: ts) := by
  rw [List.mapM_cons, h, hmore]
  rfl

/-- The lexemes of items have the tokens of items, commas included. -/
theorem mapM_token?_items {items : List Json}
    (h : ∀ v ∈ items, (lexemes v).mapM token? = some (tokens v)) :
    (itemLexemes items).mapM token? = some (itemTokens items) := by
  induction items with
  | nil => rfl
  | cons v rest ih =>
    obtain ⟨hv, hrest⟩ := List.forall_mem_cons.mp h
    cases rest with
    | nil =>
      rw [itemLexemes, itemTokens]
      exact hv
    | cons w rest =>
      rw [itemLexemes, itemTokens]
      exact mapM_token?_append (mapM_token?_append hv rfl) (ih hrest)

/-- The lexemes of fields have the tokens of fields: a key, a colon, the value, and a comma between two.
-/
theorem mapM_token?_fields {fields : List (String × Json)}
    (h : ∀ f ∈ fields, (lexemes f.2).mapM token? = some (tokens f.2)) :
    (fieldLexemes fields).mapM token? = some (fieldTokens fields) := by
  induction fields with
  | nil => rfl
  | cons f rest ih =>
    obtain ⟨k, v⟩ := f
    obtain ⟨hv, hrest⟩ := List.forall_mem_cons.mp h
    have hfield : (.string (k.toList.flatMap escapeChar) :: .mark ':' :: lexemes v).mapM token? =
        some (.string (some k) :: .colon :: tokens v) :=
      mapM_token?_cons (stringToken?_escaped k) (mapM_token?_cons rfl hv)
    cases rest with
    | nil =>
      rw [fieldLexemes, fieldTokens]
      exact hfield
    | cons next rest =>
      rw [fieldLexemes, fieldTokens]
      exact mapM_token?_append (mapM_token?_append hfield rfl) (ih hrest)

/-- **The lexemes of a value** are read as its tokens, each on its own: no lexeme depends on its
neighbours. -/
theorem mapM_token?_lexemes {v : Json} (h : v.IsProper) : (lexemes v).mapM token? = some (tokens v) := by
  induction h with
  | null =>
    rw [lexemes, tokens]
    exact mapM_token?_cons rfl rfl
  | bool b =>
    cases b with
    | true =>
      rw [lexemes, tokens]
      exact mapM_token?_cons rfl rfl
    | false =>
      rw [lexemes, tokens]
      exact mapM_token?_cons rfl rfl
  | int n =>
    rw [lexemes, tokens]
    exact mapM_token?_cons (wordToken?_toString n) rfl
  | float h =>
    obtain ⟨n, hn, hexact⟩ := NumberText.exists_exactValue?_numberText h
    rw [lexemes, tokens]
    exact mapM_token?_cons (wordToken?_of_ofChars? hn hexact) rfl
  | str s =>
    rw [lexemes, tokens]
    exact mapM_token?_cons (stringToken?_escaped s) rfl
  | arr _ ih =>
    rw [lexemes, tokens]
    exact mapM_token?_append (mapM_token?_append rfl (mapM_token?_items ih)) rfl
  | obj _ ih =>
    rw [lexemes, tokens]
    exact mapM_token?_append (mapM_token?_append rfl (mapM_token?_fields ih)) rfl

/-- **The lexemes of a value denote it**, if its numbers are those that printing brings back. -/
theorem value?_lexemes {v : Json} (h : v.IsProper) : value? (lexemes v) = some v := by
  rw [value?, mapM_token?_lexemes h, Option.bind_some, ofTokens?_tokens, Option.bind_some, value?_tree]

end Lexeme

end ApiScaffold.Json
