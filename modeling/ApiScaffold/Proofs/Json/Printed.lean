import ApiScaffold.Json.Reader
import ApiScaffold.Proofs.Data.Json
import ApiScaffold.Proofs.Json.Scan

/-!
# Printed values are read back

A printed value is scanned as its tokens (`scans_prettyAt`), the tokens are built into its tree
(`Tree.foldlM_step_tokens`), and the tree is read as its data (`Tree.toData_ofJson`). So reading is the inverse
of printing (`readData?_pretty`) for all values that a reader can tell from their text: integers have to fit 64
bits, other numbers have to be read as they are printed, and not too many arrays and objects may stand inside
one another (`IsLegible`).
-/

namespace ApiScaffold.Json

/-! ### Tokens -/

mutual

/-- **The tokens of a value.** -/
def tokens : Json → List Token
  | .null => [.null]
  | .bool b => [.bool b]
  | .int n => [.number (some (.int n))]
  | .float x => [.number (some (.float x))]
  | .str s => [.string (some s)]
  | .arr items => [.openArray] ++ itemTokens items ++ [.closeArray]
  | .obj fields => [.openObject] ++ fieldTokens fields ++ [.closeObject]

/-- The tokens of items. -/
def itemTokens : List Json → List Token
  | [] => []
  | [v] => tokens v
  | v :: w :: rest => tokens v ++ [.comma] ++ itemTokens (w :: rest)

/-- The tokens of fields. -/
def fieldTokens : List (String × Json) → List Token
  | [] => []
  | [(k, v)] => [.string (some k), .colon] ++ tokens v
  | (k, v) :: next :: rest =>
    [.string (some k), .colon] ++ tokens v ++ [.comma] ++ fieldTokens (next :: rest)

end

/-- **Legible values**: their integers fit 64 bits, their other numbers are read as they are printed, and no
more than so many arrays and objects stand inside one another. -/
inductive IsLegible : Nat → Json → Prop
  | null (levels : Nat) : IsLegible levels .null
  | bool (levels : Nat) (b : Bool) : IsLegible levels (.bool b)
  | int (levels : Nat) {n : Int} (hlow : -(twoTo 63 : Int) ≤ n) (hhigh : n < twoTo 64) :
      IsLegible levels (.int n)
  | float (levels : Nat) {x : Binary64}
      (h : Token.word? (numberText x).toList = some (.number (some (.float x)))) :
      IsLegible levels (.float x)
  | str (levels : Nat) (s : String) : IsLegible levels (.str s)
  | arr {levels : Nat} {items : List Json} (h : ∀ v ∈ items, IsLegible levels v) :
      IsLegible (levels + 1) (.arr items)
  | obj {levels : Nat} {fields : List (String × Json)} (h : ∀ f ∈ fields, IsLegible levels f.2) :
      IsLegible (levels + 1) (.obj fields)

open Token (Ends Scans)

theorem ends_comma : Ends [','] [.comma] := Token.ends_punctuation (by decide) (by decide) rfl

theorem scans_prettyItems {items : List Json}
    (h : ∀ v ∈ items, ∀ level, Scans (prettyAt level v).toList (tokens v)) (level : Nat) :
    Scans (prettyItems level items).toList (itemTokens items) := by
  induction items with
  | nil => exact Token.ends_nil.scans
  | cons v rest ih =>
    obtain ⟨hv, hrest⟩ := List.forall_mem_cons.mp h
    have hfirst := (Token.ends_newline level).append_scans (hv level)
    cases rest with
    | nil =>
      rw [prettyItems, itemTokens, String.toList_append]
      exact hfirst
    | cons w rest =>
      rw [prettyItems, itemTokens, String.toList_append, String.toList_append, String.toList_append]
      exact (hfirst.append_ends (by decide) ends_comma).append_scans (ih hrest)

theorem scans_prettyFields {fields : List (String × Json)}
    (h : ∀ f ∈ fields, ∀ level, Scans (prettyAt level f.2).toList (tokens f.2)) (level : Nat) :
    Scans (prettyFields level fields).toList (fieldTokens fields) := by
  induction fields with
  | nil => exact Token.ends_nil.scans
  | cons f rest ih =>
    obtain ⟨k, v⟩ := f
    obtain ⟨hv, hrest⟩ := List.forall_mem_cons.mp h
    have hcolon : Ends [':', ' '] [.colon] :=
      (Token.ends_punctuation (by decide) (by decide) rfl).append (Token.ends_space (c := ' ') (by decide))
    have hfirst := (((Token.ends_newline level).append (Token.ends_quoted k)).append hcolon).append_scans
      (hv level)
    cases rest with
    | nil =>
      rw [prettyFields, fieldTokens, String.toList_append, String.toList_append, String.toList_append]
      exact hfirst
    | cons next rest =>
      rw [prettyFields, fieldTokens, String.toList_append, String.toList_append, String.toList_append,
        String.toList_append, String.toList_append]
      exact (hfirst.append_ends (by decide) ends_comma).append_scans (ih hrest)

/-- **Printed values** are scanned as their tokens, at any level. The level shows in white space only.
-/
theorem scans_prettyAt {levels : Nat} {v : Json} (h : v.IsLegible levels) (level : Nat) :
    Scans (prettyAt level v).toList (tokens v) := by
  induction h generalizing level with
  | null =>
    have hword : Scans ['n', 'u', 'l', 'l'] [.null] := Token.scans_name (List.cons_ne_nil _ _) rfl rfl
    rw [prettyAt, tokens]
    exact hword
  | bool _ b =>
    cases b with
    | true =>
      have hword : Scans ['t', 'r', 'u', 'e'] [.bool true] :=
        Token.scans_name (List.cons_ne_nil _ _) rfl rfl
      rw [prettyAt, tokens]
      exact hword
    | false =>
      have hword : Scans ['f', 'a', 'l', 's', 'e'] [.bool false] :=
        Token.scans_name (List.cons_ne_nil _ _) rfl rfl
      rw [prettyAt, tokens]
      exact hword
  | int _ hlow hhigh => exact Token.scans_int hlow hhigh
  | float _ h => exact Token.scans_float h
  | str _ s => exact (Token.ends_quoted s).scans
  | arr _ ih =>
    rename_i items _
    -- between the brackets each item ends at a line feed, so the last of them may be a word
    have hopen : Ends ['['] [.openArray] := Token.ends_punctuation (by decide) (by decide) rfl
    have hclose : Ends [']'] [.closeArray] := Token.ends_punctuation (by decide) (by decide) rfl
    cases items with
    | nil =>
      rw [prettyAt, tokens, itemTokens]
      exact (hopen.append hclose).scans
    | cons v rest =>
      rw [prettyAt, tokens, String.toList_append, String.toList_append, String.toList_append]
      exact (((hopen.append_scans (scans_prettyItems ih _)).append_newline level).append hclose).scans
  | obj _ ih =>
    rename_i fields _
    have hopen : Ends ['\x7b'] [.openObject] := Token.ends_punctuation (by decide) (by decide) rfl
    have hclose : Ends ['\x7d'] [.closeObject] := Token.ends_punctuation (by decide) (by decide) rfl
    cases fields with
    | nil =>
      rw [prettyAt, tokens, fieldTokens]
      exact (hopen.append hclose).scans
    | cons f rest =>
      rw [prettyAt, tokens, String.toList_append, String.toList_append, String.toList_append]
      exact (((hopen.append_scans (scans_prettyFields ih _)).append_newline level).append hclose).scans

/-! ### Trees -/

mutual

/-- **The tree of a value.** -/
def tree : Json → Tree
  | .null => .null
  | .bool b => .bool b
  | .int n => .number (some (.int n))
  | .float x => .number (some (.float x))
  | .str s => .string (some s)
  | .arr items => .array (itemTrees items)
  | .obj fields => .object (fieldTrees fields)

/-- The trees of items. -/
def itemTrees : List Json → List Tree
  | [] => []
  | v :: rest => tree v :: itemTrees rest

/-- The trees of fields. -/
def fieldTrees : List (String × Json) → List (Option String × Tree)
  | [] => []
  | (k, v) :: rest => (some k, tree v) :: fieldTrees rest

end

open Json.Tree (Builder Frame)

theorem foldlM_step_singleton (b : Builder) (t : Token) : [t].foldlM Builder.step b = b.step t := by
  rw [List.foldlM_cons]
  exact bind_pure _

/-- Where a value may start, it is put into the innermost frame. -/
def IsBuilt (v : Json) : Prop :=
  ∀ frames, (tokens v).foldlM Builder.step ⟨.value, frames⟩ = Builder.place (tree v) frames

theorem foldlM_step_items {items : List Json} (h : ∀ v ∈ items, IsBuilt v) (before : List Tree)
    (frames : List Frame) (hne : items ≠ []) :
    (itemTokens items).foldlM Builder.step ⟨.value, .array before :: frames⟩ =
      some ⟨.commaOrClose, .array ((itemTrees items).reverse ++ before) :: frames⟩ := by
  induction items generalizing before with
  | nil => exact absurd rfl hne
  | cons v rest ih =>
    obtain ⟨hv, hrest⟩ := List.forall_mem_cons.mp h
    cases rest with
    | nil =>
      rw [itemTokens, hv]
      rfl
    | cons w rest =>
      rw [itemTokens, List.foldlM_append, List.foldlM_append, hv]
      change List.foldlM Builder.step ⟨.value, .array (tree v :: before) :: frames⟩ _ = _
      rw [ih hrest _ (List.cons_ne_nil w rest)]
      simp [itemTrees]

theorem foldlM_step_fields {fields : List (String × Json)} (h : ∀ f ∈ fields, IsBuilt f.2)
    (before : List (Option String × Tree)) (frames : List Frame) (hne : fields ≠ []) :
    (fieldTokens fields).foldlM Builder.step ⟨.key, .object before :: frames⟩ =
      some ⟨.commaOrClose, .object ((fieldTrees fields).reverse ++ before) :: frames⟩ := by
  induction fields generalizing before with
  | nil => exact absurd rfl hne
  | cons f rest ih =>
    obtain ⟨k, v⟩ := f
    obtain ⟨hv, hrest⟩ := List.forall_mem_cons.mp h
    have hkey : [Token.string (some k), .colon].foldlM Builder.step ⟨.key, .object before :: frames⟩ =
        some ⟨.value, .field before (some k) :: frames⟩ := rfl
    cases rest with
    | nil =>
      rw [fieldTokens, List.foldlM_append, hkey, Option.bind_eq_bind, Option.bind_some, hv]
      rfl
    | cons next rest =>
      rw [fieldTokens, List.foldlM_append, List.foldlM_append, List.foldlM_append, hkey,
        Option.bind_eq_bind, Option.bind_some, hv]
      change List.foldlM Builder.step ⟨.key, .object ((some k, tree v) :: before) :: frames⟩ _ = _
      rw [ih hrest _ (List.cons_ne_nil next rest)]
      simp [fieldTrees]

/-- A value does not start with what closes an array. -/
theorem exists_tokens_cons (v : Json) : ∃ t rest, tokens v = t :: rest ∧ t ≠ .closeArray := by
  cases v <;> rw [tokens] <;> exact ⟨_, _, rfl, nofun⟩

/-- After an opening bracket, items start like any value. -/
theorem foldlM_step_valueOrClose (v : Json) (rest : List Json) (frames : List Frame) :
    (itemTokens (v :: rest)).foldlM Builder.step ⟨.valueOrClose, frames⟩ =
      (itemTokens (v :: rest)).foldlM Builder.step ⟨.value, frames⟩ := by
  obtain ⟨t, more, htokens, ht⟩ := exists_tokens_cons v
  have hfirst : Builder.step ⟨.valueOrClose, frames⟩ t = Builder.step ⟨.value, frames⟩ t := if_neg ht
  cases rest with
  | nil => rw [itemTokens, htokens, List.foldlM_cons, List.foldlM_cons, hfirst]
  | cons w rest =>
    rw [itemTokens, htokens, List.cons_append, List.cons_append, List.foldlM_cons, List.foldlM_cons,
      hfirst]

/-- After an opening brace, fields start with a key. -/
theorem foldlM_step_keyOrClose (f : String × Json) (rest : List (String × Json)) (frames : List Frame) :
    (fieldTokens (f :: rest)).foldlM Builder.step ⟨.keyOrClose, frames⟩ =
      (fieldTokens (f :: rest)).foldlM Builder.step ⟨.key, frames⟩ := by
  cases rest <;> rw [fieldTokens] <;> rfl

/-- **The tokens of a value** are built into its tree. What was open before stays open around it, and
this is what lets the induction go through arrays and objects. -/
theorem isBuilt (v : Json) : IsBuilt v := by
  intro frames
  induction v using Json.induct generalizing frames with
  | arr items ih =>
    -- items are gathered in reverse, and closing the frame turns them round
    have hitems : (itemTokens items ++ [Token.closeArray]).foldlM Builder.step
        ⟨.valueOrClose, .array [] :: frames⟩ = Builder.place (.array (itemTrees items)) frames := by
      cases items with
      | nil =>
        rw [itemTokens, itemTrees, List.nil_append, foldlM_step_singleton]
        rfl
      | cons v rest =>
        rw [List.foldlM_append, foldlM_step_valueOrClose, foldlM_step_items ih [] frames (by simp),
          Option.bind_eq_bind, Option.bind_some, foldlM_step_singleton, List.append_nil]
        change Builder.place (.array (itemTrees (v :: rest)).reverse.reverse) frames = _
        rw [List.reverse_reverse]
    rw [tokens, tree, List.append_assoc]
    exact hitems
  | obj fields ih =>
    have hfields : (fieldTokens fields ++ [Token.closeObject]).foldlM Builder.step
        ⟨.keyOrClose, .object [] :: frames⟩ = Builder.place (.object (fieldTrees fields)) frames := by
      cases fields with
      | nil =>
        rw [fieldTokens, fieldTrees, List.nil_append, foldlM_step_singleton]
        rfl
      | cons f rest =>
        rw [List.foldlM_append, foldlM_step_keyOrClose, foldlM_step_fields ih [] frames (by simp),
          Option.bind_eq_bind, Option.bind_some, foldlM_step_singleton, List.append_nil]
        change Builder.place (.object (fieldTrees (f :: rest)).reverse.reverse) frames = _
        rw [List.reverse_reverse]
    rw [tokens, tree, List.append_assoc]
    exact hfields
  | _ =>
    rw [tokens, tree, foldlM_step_singleton]
    rfl

theorem ofTokens?_tokens (v : Json) : Tree.ofTokens? (tokens v) = some (tree v) := by
  rw [Tree.ofTokens?, isBuilt v []]
  rfl

/-! ### Data -/

theorem toDataItems_itemTrees (levels : Nat) (items : List Json)
    (h : ∀ v ∈ items, (tree v).toData levels = Data.ofJson v) :
    Tree.toDataItems levels (itemTrees items) = Data.ofJsonItems items := by
  induction items with
  | nil => rfl
  | cons v rest ih =>
    obtain ⟨hv, hrest⟩ := List.forall_mem_cons.mp h
    rw [itemTrees, Tree.toDataItems, Data.ofJsonItems, hv, ih hrest]

theorem readableFields?_fieldTrees (levels : Nat) (fields : List (String × Json))
    (h : ∀ f ∈ fields, (tree f.2).toData levels = Data.ofJson f.2) :
    readableFields? (Tree.toDataFields levels (fieldTrees fields)) = some (Data.ofJsonFields fields) := by
  induction fields with
  | nil => rfl
  | cons f rest ih =>
    obtain ⟨k, v⟩ := f
    obtain ⟨hv, hrest⟩ := List.forall_mem_cons.mp h
    rw [fieldTrees, Tree.toDataFields, Data.ofJsonFields, hv, readableFields?, ih hrest]
    rfl

/-- The tree of a value is read as its data, down to the levels that the value has. -/
theorem toData_tree {levels : Nat} {v : Json} (h : v.IsLegible levels) :
    (tree v).toData levels = Data.ofJson v := by
  induction h with
  | arr _ ih => rw [tree, Tree.toData, Data.ofJson, toDataItems_itemTrees _ _ ih]
  | obj _ ih =>
    rw [tree, Tree.toData, Data.ofJson, readableFields?_fieldTrees _ _ ih]
  | _ =>
    rw [tree]
    rfl

/-- **Reading is the inverse of printing** on legible values: those that nest no deeper than the reader
goes and have only such numbers as it reads exactly. -/
theorem readData?_pretty {v : Json} (h : v.IsLegible nestingLimit) :
    readData? v.pretty = some (Data.ofJson v) := by
  rw [readData?, Tree.read?, pretty, (scans_prettyAt h 0).scan?, Option.bind_some, ofTokens?_tokens,
    Option.map_some, toData_tree h]

/-- The value of the text of a value is the value, if it can be one of a text at all. -/
theorem read?_pretty {v : Json} (h : v.IsLegible nestingLimit) (hkeys : v.DistinctKeys) :
    read? v.pretty = some v := by
  rw [read?, readData?_pretty h, Option.bind_some, Data.toJson?_ofJson hkeys]

end ApiScaffold.Json
