import ApiScaffold.Proofs.Literal.RoundTrip
import ApiScaffold.Proofs.Path.Parts

/-!
# Which literals are legal

A literal in a code is legal if JavaScript reads it up to its closing quote. The literals of a text are
found by going from quote to quote (`Literal.insides`); those of a value's code are its strings and
quoted keys, and those of a path's code are the texts between dependencies. Quotes and backslashes are
escaped in all of them and line ends in none, so a literal is legal exactly if the text that it stands for
is one line.
-/

namespace ApiScaffold

namespace Literal

/-! ### The literals of a text -/

/-- **The literals of a text**: the inside of each, as it is written. -/
def insides : List Char → List (List Char)
  | [] => []
  | c :: cs =>
    if c = '\'' then
      match _ : closing? cs with
      | some (inside, rest) => inside :: insides rest
      | none => []
    else insides cs
termination_by cs => cs.length
decreasing_by
  · exact Nat.lt_succ_of_lt (length_of_closing? ‹closing? cs = some (inside, rest)›)
  · exact Nat.lt_succ_self _

theorem insides_escaped (cs rest : List Char) :
    insides ('\'' :: (escaped cs ++ '\'' :: rest)) = escaped cs :: insides rest := by
  have h := closing?_escaped cs rest
  rw [insides, if_pos rfl]
  split
  · next inside left hleft =>
    rw [h] at hleft
    cases hleft
    rfl
  · next hnone =>
    rw [h] at hnone
    cases hnone

/-- **Written literals**: wherever a text stands, the literals that it adds are those of some texts. -/
def Writes (cs : List Char) (texts : List String) : Prop :=
  ∀ rest, insides (cs ++ rest) = texts.map (fun s => escaped s.toList) ++ insides rest

namespace Writes

variable {cs ds : List Char} {texts more : List String}

theorem append (h : Writes cs texts) (h' : Writes ds more) : Writes (cs ++ ds) (texts ++ more) := by
  intro rest
  rw [List.append_assoc, h, h', List.map_append, List.append_assoc]

/-- A text without quotes adds no literal. -/
theorem of_no_quote (h : '\'' ∉ cs) : Writes cs [] := by
  intro rest
  induction cs with
  | nil => rfl
  | cons c cs ih =>
    obtain ⟨hc, hcs⟩ := List.ne_and_not_mem_of_not_mem_cons h
    rw [List.cons_append, insides, if_neg hc.symm]
    exact ih hcs

theorem quote (s : String) : Writes (quote s).toList [s] := by
  intro rest
  rw [toList_quote, List.cons_append, List.append_assoc]
  exact insides_escaped s.toList rest

/-- Texts after commas add their literals one after the other. -/
theorem continued {α : Type} {f : α → String} {g : α → List String} {xs : List α}
    (h : ∀ x ∈ xs, Writes (f x).toList (g x)) : Writes (continued (xs.map f)) (xs.flatMap g) := by
  induction xs with
  | nil => exact of_no_quote List.not_mem_nil
  | cons x xs ih =>
    obtain ⟨hx, hxs⟩ := List.forall_mem_cons.mp h
    have hcomma : Writes [',', ' '] [] := of_no_quote (by decide)
    exact (hcomma.append hx).append (ih hxs)

/-- Brackets around a first text and others after commas. -/
theorem bracketed {α : Type} {f : α → String} {g : α → List String} {x : α} {xs : List α}
    (h : ∀ y ∈ x :: xs, Writes (f y).toList (g y)) {opening closing : Char} (ho : opening ≠ '\'')
    (hc : closing ≠ '\'') :
    Writes (opening :: ' ' :: ((f x).toList ++ (Literal.continued (xs.map f) ++ [' ', closing])))
      ((x :: xs).flatMap g) := by
  obtain ⟨hx, hxs⟩ := List.forall_mem_cons.mp h
  have hopening : Writes [opening, ' '] [] := of_no_quote (by simp [ho.symm])
  have hclosing : Writes [' ', closing] [] := of_no_quote (by simp [hc.symm])
  have hall := hopening.append (hx.append ((continued hxs).append hclosing))
  rwa [List.append_nil] at hall

end Writes

/-! ### The literals of a value -/

/-- The text of a key, if it has to be quoted. -/
def quotedKey (key : String) : List String := if isBareKey key then [] else [key]

mutual

/-- **The texts that the code of a value quotes**: its strings and the keys that are no names, in their
order. -/
def quotedTexts : Json → List String
  | .str s => [s]
  | .arr items => quotedTextsOfItems items
  | .obj fields => quotedTextsOfFields fields
  | _ => []

/-- The texts that the codes of items quote. -/
def quotedTextsOfItems : List Json → List String
  | [] => []
  | v :: rest => quotedTexts v ++ quotedTextsOfItems rest

/-- The texts that the codes of fields quote. -/
def quotedTextsOfFields : List (String × Json) → List String
  | [] => []
  | (k, v) :: rest =>
    if isHidden k then quotedTextsOfFields rest
    else quotedKey k ++ quotedTexts v ++ quotedTextsOfFields rest

end

theorem quotedTextsOfItems_eq_flatMap (items : List Json) :
    quotedTextsOfItems items = items.flatMap quotedTexts := by
  induction items with
  | nil => rfl
  | cons v rest ih => rw [quotedTextsOfItems, ih, List.flatMap_cons]

theorem quotedTextsOfFields_eq_flatMap (fields : List (String × Json)) :
    quotedTextsOfFields fields =
      (shownFields fields).flatMap fun f => quotedKey f.1 ++ quotedTexts f.2 := by
  induction fields with
  | nil => rfl
  | cons f rest ih =>
    rw [quotedTextsOfFields, ih, shownFields_cons]
    split <;> rfl

theorem writes_keyCode (key : String) : Writes (keyCode key).toList (quotedKey key) := by
  unfold keyCode quotedKey
  split
  · next h =>
    obtain ⟨d, ds, hkey, hd, hds⟩ := exists_of_isBareKey h
    refine Writes.of_no_quote fun hc => ?_
    rw [hkey] at hc
    rcases List.mem_cons.mp hc with rfl | hc
    · exact absurd hd (by decide)
    · exact absurd (hds _ hc) (by decide)
  · exact Writes.quote key

theorem writes_number {s : String} (h : Value.IsNumberText s) : Writes s.toList [] :=
  Writes.of_no_quote fun hc => absurd (h _ hc) (by decide)

/-- **The literals in the code of a value** are those of the texts that it quotes. -/
theorem writes_code (v : Json) : Writes (code v).toList (quotedTexts v) := by
  induction v using Json.induct with
  | null => exact Writes.of_no_quote (by decide)
  | bool b => cases b <;> exact Writes.of_no_quote (by decide)
  | int n => exact writes_number (Value.isNumberText_int n)
  | float x => exact writes_number (Value.isNumberText_float x)
  | str s => exact Writes.quote s
  | arr items ih =>
    rw [quotedTexts, quotedTextsOfItems_eq_flatMap]
    cases items with
    | nil => exact Writes.of_no_quote (by decide)
    | cons v items =>
      rw [toList_code_arr]
      exact Writes.bracketed ih (by decide) (by decide)
  | obj fields ih =>
    rw [quotedTexts, quotedTextsOfFields_eq_flatMap]
    have hshown : ∀ f ∈ shownFields fields,
        Writes (fieldCode f).toList (quotedKey f.1 ++ quotedTexts f.2) := by
      intro f hf
      have hcolon : Writes [':', ' '] [] := Writes.of_no_quote (by decide)
      rw [toList_fieldCode]
      exact (writes_keyCode f.1).append (hcolon.append (ih f (List.mem_filter.mp hf).1))
    rcases hfields : shownFields fields with _ | ⟨f, rest⟩
    · rw [code, fieldCodes_eq_map, hfields]
      exact Writes.of_no_quote (by decide)
    · rw [hfields] at hshown
      rw [toList_code_obj hfields]
      exact Writes.bracketed hshown (by decide) (by decide)

theorem insides_code (v : Json) :
    insides (code v).toList = (quotedTexts v).map fun s => escaped s.toList := by
  have h := writes_code v []
  rwa [List.append_nil, insides, List.append_nil] at h

end Literal

/-! ### The literals of a path -/

namespace ResolvedPath

open Literal (IsOneLine IsLegal)

variable {segments : List PathSegment} {first : String} {ds : List DrawnField}

/-- Texts of a division are one line if all that is spelled is, and only then. -/
theorem Divides.isOneLine_iff (h : Divides segments first ds) :
    (∀ segment ∈ segments, ∀ t, segment.Spells t → IsOneLine t.toList) ↔
      IsOneLine first.toList ∧ ∀ d ∈ ds, IsOneLine d.after.toList := by
  induction h with
  | nil => simp [IsOneLine]
  | @spelled segment t ht rest first ds _ ih =>
    have hsegment : (∀ u, segment.Spells u → IsOneLine u.toList) ↔ IsOneLine t.toList := by
      refine ⟨fun hall => hall t ht, fun hline u hu => ?_⟩
      obtain rfl := Option.some.inj (ht.literalText?.symm.trans hu.literalText?)
      exact hline
    rw [List.forall_mem_cons, ih, hsegment, String.toList_append, Literal.isOneLine_append, and_assoc]
  | @drawn name step field rest first ds _ ih =>
    have hsegment : ∀ u, (PathSegment.placeholder name (.dependency step field)).Spells u →
        IsOneLine u.toList := by
      rintro u ⟨⟩
    rw [List.forall_mem_cons, ih, List.forall_mem_cons]
    exact ⟨fun hall => ⟨List.forall_mem_nil _, hall.2⟩, fun hall => ⟨hsegment, hall.2⟩⟩

theorem isOneLine_literalIfAny_iff (text : String) :
    (∀ t, .literal t ∈ PathPart.literalIfAny text → IsOneLine t.toList) ↔ IsOneLine text.toList := by
  rw [PathPart.literalIfAny]
  split
  · next hempty => simp [hempty, IsOneLine]
  · simp

theorem isOneLine_flatMap_ofField_iff (ds : List DrawnField) :
    (∀ t, .literal t ∈ ds.flatMap PathPart.ofField → IsOneLine t.toList) ↔
      ∀ d ∈ ds, IsOneLine d.after.toList := by
  induction ds with
  | nil => simp
  | cons d ds ih =>
    rw [List.forall_mem_cons, ← ih, ← isOneLine_literalIfAny_iff]
    simp [PathPart.ofField, or_imp, forall_and]

/-- The literals of a division are one line exactly if its texts are. -/
theorem isOneLine_ofDivision_iff (first : String) (ds : List DrawnField) :
    (∀ t, .literal t ∈ PathPart.ofDivision first ds → IsOneLine t.toList) ↔
      IsOneLine first.toList ∧ ∀ d ∈ ds, IsOneLine d.after.toList := by
  cases ds with
  | nil => simp [PathPart.ofDivision]
  | cons d ds =>
    rw [← isOneLine_flatMap_ofField_iff, ← isOneLine_literalIfAny_iff, PathPart.ofDivision]
    simp only [List.mem_append, or_imp, forall_and]

/-- The quoted texts among the parts of a path are its literals. -/
theorem quote_mem_parts_iff {path : ResolvedPath} (h : Divides path.segments first ds) (t : String) :
    Literal.quote t ∈ path.parts ↔ .literal t ∈ PathPart.ofDivision first ds := by
  rw [parts_eq_of_divides h, List.mem_map]
  constructor
  · rintro ⟨part, hpart, hcode⟩
    cases part with
    | literal u =>
      obtain rfl := Literal.quote_injective hcode
      exact hpart
    | drawn step field =>
      have hliteral : StartsWithLiteral (PathPart.drawn step field).code :=
        ⟨t, "", by rw [hcode, String.append_empty]⟩
      exact absurd ((PathPart.startsWithLiteral_code_iff _).mp hliteral) Bool.false_ne_true
  · exact fun hpart => ⟨_, hpart, rfl⟩

end ResolvedPath

namespace Literal

/-- **A literal is legal exactly if what it stands for is one line.** The literals in the code of a value
are its strings and quoted keys, escaped; JavaScript reads them all exactly if no line ends in one of
these texts. Among the parts of a path's code it reads all literals exactly if no line ends in what the
segments spell. -/
theorem literals_legal_iff (v : Json) (path : ResolvedPath) :
    insides (code v).toList = ((quotedTexts v).map fun s => escaped s.toList) ∧
    ((∀ inside ∈ insides (code v).toList, IsLegal inside) ↔
      ∀ s ∈ quotedTexts v, IsOneLine s.toList) ∧
    ((∀ t, quote t ∈ path.parts → IsLegal (escaped t.toList)) ↔
      ∀ segment ∈ path.segments, ∀ t, segment.Spells t → IsOneLine t.toList) := by
  refine ⟨insides_code v, ?_, ?_⟩
  · rw [insides_code, List.forall_mem_map]
    exact forall₂_congr fun s _ => isLegal_escaped_iff s.toList
  · obtain ⟨first, ds, hdivides⟩ := ResolvedPath.exists_divides path.segments
    rw [hdivides.isOneLine_iff, ← ResolvedPath.isOneLine_ofDivision_iff]
    refine forall_congr' fun t => ?_
    rw [ResolvedPath.quote_mem_parts_iff hdivides, isLegal_escaped_iff]

/-- **A line end in a text makes its literal illegal**: it goes into the code as it is, and JavaScript
does not read the literal, neither in a value nor in a path. -/
theorem exists_code_not_legal :
    (∃ inside ∈ insides (code (.str "a\nb")).toList, '\n' ∈ inside ∧ ¬ IsLegal inside) ∧
    ∃ t, quote t ∈ (ResolvedPath.mk [.text "a\nb"]).parts ∧ '\n' ∈ escaped t.toList ∧
      ¬ IsLegal (escaped t.toList) := by
  have hline : '\n' ∈ escaped "a\nb".toList ∧ ¬ IsLegal (escaped "a\nb".toList) :=
    ⟨by decide, fun h => absurd ((isLegal_escaped_iff _).mp h) (by decide)⟩
  refine ⟨⟨escaped "a\nb".toList, ?_, hline⟩, "a\nb", ?_, hline⟩
  · rw [insides_code]
    exact List.mem_singleton_self _
  · rw [ResolvedPath.quote_mem_parts_iff (.spelled (.text _) .nil)]
    exact List.mem_singleton_self _

end Literal

end ApiScaffold
