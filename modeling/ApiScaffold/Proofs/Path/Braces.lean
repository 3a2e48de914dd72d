import ApiScaffold.Proofs.Resolution

/-!
# Decoding braces at once

The four escapes are replaced one after the other, and each replacement works on what the one before it
left. They all start in the same way and differ in their last digit, so any of them is a pass with a table
of last digits (`Braces.replaceEscapes`). Two passes in a row are one pass with both tables
(`Braces.replaceEscapes_replaceEscapes`), as long as what the first one puts in is no part of an escape of the
second (`Braces.Apart`). That a pass leaves none of its escapes, and that it changes nothing when it is made
again, comes from the same fact: no escape starts in its result that did not start in the text.
-/

namespace ApiScaffold

namespace Braces

/-- What escapes stand for, by their last digit. -/
abbrev Table := Char → Option Char

variable {t u : Table} {c d : Char} {cs rest : List Char}

/-- **Escapes replaced**, in one pass from left to right. -/
def replaceEscapes (t : Table) : List Char → List Char
  | '%' :: '7' :: d :: rest =>
    match t d with
    | some c => c :: replaceEscapes t rest
    | none => '%' :: replaceEscapes t ('7' :: d :: rest)
  | c :: rest => c :: replaceEscapes t rest
  | [] => []
termination_by cs => cs.length

/-- A text that starts with an escape of a table. -/
def StartsEscape (t : Table) (cs : List Char) : Prop :=
  ∃ d c rest, t d = some c ∧ cs = '%' :: '7' :: d :: rest

theorem not_startsEscape_of_none (h : t d = none) : ¬ StartsEscape t ('%' :: '7' :: d :: rest) := by
  rintro ⟨_, _, _, hvalue, heq⟩
  cases heq
  rw [h] at hvalue
  cases hvalue

theorem not_startsEscape_of_ne (h : ∀ d more, c = '%' → rest = '7' :: d :: more → False) :
    ¬ StartsEscape t (c :: rest) := by
  rintro ⟨d, _, more, -, heq⟩
  obtain ⟨hc, hrest⟩ := List.cons.inj heq
  exact h d more hc hrest

theorem replaceEscapes_nil : replaceEscapes t [] = [] := by
  rw [replaceEscapes]

theorem replaceEscapes_escape (h : t d = some c) :
    replaceEscapes t ('%' :: '7' :: d :: rest) = c :: replaceEscapes t rest := by
  rw [replaceEscapes, h]

theorem replaceEscapes_cons (h : ¬ StartsEscape t (c :: rest)) :
    replaceEscapes t (c :: rest) = c :: replaceEscapes t rest := by
  rw [replaceEscapes.eq_def]
  split
  · next d more heq =>
    obtain ⟨rfl, rfl⟩ := List.cons.inj heq
    split
    · next b hd => exact absurd ⟨d, b, more, hd, rfl⟩ h
    · rfl
  · next heq =>
    obtain ⟨rfl, rfl⟩ := List.cons.inj heq
    rfl
  · next heq => cases heq

/-- **Induction over the escapes of a text**: it starts with one, or with a character that is left alone. -/
theorem escapes_induct {motive : List Char → Prop} (t : Table) (nil : motive [])
    (escape : ∀ d c rest, t d = some c → motive rest → motive ('%' :: '7' :: d :: rest))
    (char : ∀ c rest, ¬ StartsEscape t (c :: rest) → motive rest → motive (c :: rest))
    (cs : List Char) : motive cs := by
  induction hlength : cs.length using Nat.strongRecOn generalizing cs with
  | _ length ih =>
    subst hlength
    cases cs with
    | nil => exact nil
    | cons c rest =>
      by_cases hstarts : StartsEscape t (c :: rest)
      · obtain ⟨d, b, rest, hd, heq⟩ := hstarts
        rw [heq] at ih ⊢
        exact escape d b rest hd (ih _ (by simp only [List.length_cons]; omega) rest rfl)
      · exact char c rest hstarts (ih _ (Nat.lt_succ_self _) rest rfl)

/-- **The start of a result**: what an escape stands for, or a character that was left alone. -/
theorem replaceEscapes_eq_cons (h : replaceEscapes t cs = c :: rest) :
    (∃ d more, t d = some c ∧ cs = '%' :: '7' :: d :: more ∧ rest = replaceEscapes t more) ∨
      ∃ more, ¬ StartsEscape t (c :: more) ∧ cs = c :: more ∧ rest = replaceEscapes t more := by
  cases cs using escapes_induct t with
  | nil =>
    rw [replaceEscapes_nil] at h
    cases h
  | escape d b more hd =>
    rw [replaceEscapes_escape hd] at h
    obtain ⟨rfl, rfl⟩ := List.cons.inj h
    exact .inl ⟨d, more, hd, rfl, rfl⟩
  | char b more hb =>
    rw [replaceEscapes_cons hb] at h
    obtain ⟨rfl, rfl⟩ := List.cons.inj h
    exact .inr ⟨more, hb, rfl, rfl⟩

/-! ### Two passes -/

/-- **Tables whose passes do not meet**: what the first stands for is no part of an escape of the second,
and no escape of the second goes on with the start of another one. -/
structure Apart (t u : Table) : Prop where
  percent : ∀ d c, t d = some c → c ≠ '%'
  seven : ∀ d c, t d = some c → c ≠ '7'
  digit : ∀ d c, t d = some c → u c = none
  start : u '%' = none

/-- **No escape is formed**: one that starts in front of a result started in front of the text. -/
theorem StartsEscape.of_replaceEscapes (h : Apart t u)
    (hstarts : StartsEscape u (c :: replaceEscapes t rest)) : StartsEscape u (c :: rest) := by
  obtain ⟨d, b, after, hd, heq⟩ := hstarts
  obtain ⟨rfl, hseven⟩ := List.cons.inj heq
  rcases replaceEscapes_eq_cons hseven with ⟨_, _, hvalue, -⟩ | ⟨more, -, rfl, hdigit⟩
  · exact absurd rfl (h.seven _ _ hvalue)
  rcases replaceEscapes_eq_cons hdigit.symm with ⟨_, _, hvalue, -⟩ | ⟨last, -, rfl, -⟩
  · rw [h.digit _ _ hvalue] at hd
    cases hd
  · exact ⟨d, b, last, hd, rfl⟩

/-- **Both tables**, the first before the second. -/
def Table.or (t u : Table) : Table := fun d => (t d).or (u d)

theorem Table.or_eq_some_iff : Table.or t u d = some c ↔ t d = some c ∨ t d = none ∧ u d = some c :=
  Option.or_eq_some_iff

theorem StartsEscape.or (h : StartsEscape t cs ∨ StartsEscape u cs) :
    StartsEscape (Table.or t u) cs := by
  rcases h with ⟨d, c, rest, hd, rfl⟩ | ⟨d, c, rest, hd, rfl⟩
  · exact ⟨d, c, rest, Table.or_eq_some_iff.mpr (.inl hd), rfl⟩
  · cases ht : t d with
    | some b => exact ⟨d, b, rest, Table.or_eq_some_iff.mpr (.inl ht), rfl⟩
    | none => exact ⟨d, c, rest, Table.or_eq_some_iff.mpr (.inr ⟨ht, hd⟩), rfl⟩

/-- **Two passes are one** with both tables, as long as what the first puts in is no part of an escape
of the second. -/
theorem replaceEscapes_replaceEscapes (h : Apart t u) (cs : List Char) :
    replaceEscapes u (replaceEscapes t cs) = replaceEscapes (Table.or t u) cs := by
  induction cs using escapes_induct (Table.or t u) with
  | nil => simp only [replaceEscapes_nil]
  | escape d c rest hd ih =>
    rw [replaceEscapes_escape hd, ← ih]
    rcases Table.or_eq_some_iff.mp hd with ht | ⟨ht, hu⟩
    · -- what the first pass puts in starts no escape of the second
      have hstarts : ¬ StartsEscape u (c :: replaceEscapes t rest) :=
        not_startsEscape_of_ne fun _ _ hc _ => h.percent _ _ ht hc
      rw [replaceEscapes_escape ht, replaceEscapes_cons hstarts]
    · -- the first pass takes the three characters one by one
      have hseven : ¬ StartsEscape t ('7' :: d :: rest) := not_startsEscape_of_ne nofun
      have hdigit : ¬ StartsEscape t (d :: rest) := by
        refine not_startsEscape_of_ne ?_
        rintro _ _ rfl -
        rw [h.start] at hu
        cases hu
      rw [replaceEscapes_cons (not_startsEscape_of_none ht), replaceEscapes_cons hseven,
        replaceEscapes_cons hdigit, replaceEscapes_escape hu]
  | char c rest hstarts ih =>
    have ht : ¬ StartsEscape t (c :: rest) := fun hs => hstarts (.or (.inl hs))
    have hu : ¬ StartsEscape u (c :: replaceEscapes t rest) :=
      fun hs => hstarts (.or (.inr (hs.of_replaceEscapes h)))
    rw [replaceEscapes_cons ht, replaceEscapes_cons hu, replaceEscapes_cons hstarts, ih]

/-- What a result ends with is the result of a text. -/
theorem exists_replaceEscapes_of_append {before after : List Char}
    (h : replaceEscapes t cs = before ++ after) : ∃ more, after = replaceEscapes t more := by
  induction before generalizing cs with
  | nil => exact ⟨cs, h.symm⟩
  | cons c before ih =>
    rcases replaceEscapes_eq_cons h with ⟨_, more, -, -, hmore⟩ | ⟨more, -, -, hmore⟩
    · exact ih hmore.symm
    · exact ih hmore.symm

/-- **No escape is left** of those that a pass replaces. One that is there afterwards would have been
formed by a character that was put in, and such characters form none. -/
theorem not_isInfix_replaceEscapes (h : Apart t t) (hd : t d = some c) (cs : List Char) :
    ¬ ['%', '7', d] <:+: replaceEscapes t cs := by
  rintro ⟨before, after, heq⟩
  rw [List.append_assoc] at heq
  obtain ⟨more, hmore⟩ := exists_replaceEscapes_of_append heq.symm
  rcases replaceEscapes_eq_cons hmore.symm with ⟨_, _, hvalue, -⟩ | ⟨last, hstarts, -, hlast⟩
  · exact h.percent _ _ hvalue rfl
  · refine hstarts (StartsEscape.of_replaceEscapes h ⟨d, c, after, hd, ?_⟩)
    rw [← hlast]
    rfl

/-! ### The four escapes -/

/-- The table of one escape. -/
def single (digit brace : Char) : Table := fun d => if d = digit then some brace else none

theorem single_eq_some_iff {digit brace : Char} :
    single digit brace d = some c ↔ d = digit ∧ brace = c := by
  rw [single, Option.ite_none_right_eq_some, Option.some_inj]

theorem unescape_eq_replaceEscapes (digit brace : Char) (cs : List Char) :
    unescape digit brace cs = replaceEscapes (single digit brace) cs := by
  fun_induction unescape digit brace cs with
  | case1 rest ih =>
    rw [ih, replaceEscapes_escape (single_eq_some_iff.mpr ⟨rfl, rfl⟩)]
  | case2 d rest hd ih => rw [ih, replaceEscapes_cons (not_startsEscape_of_none (if_neg hd))]
  | case3 c rest hne ih => rw [ih, replaceEscapes_cons (not_startsEscape_of_ne hne)]
  | case4 => rw [replaceEscapes_nil]

theorem decodeOnce_eq_replaceEscapes (cs : List Char) :
    decodeOnce cs = replaceEscapes brace? cs := by
  fun_induction decodeOnce cs with
  | case1 d rest c hd ih => rw [ih, replaceEscapes_escape hd]
  | case2 d rest hd ih => rw [ih, replaceEscapes_cons (not_startsEscape_of_none hd)]
  | case3 c rest hne ih => rw [ih, replaceEscapes_cons (not_startsEscape_of_ne hne)]
  | case4 => rw [replaceEscapes_nil]

theorem brace?_eq_or :
    brace? = Table.or (Table.or (Table.or (single 'B' '\x7b') (single 'b' '\x7b')) (single 'D' '\x7d'))
      (single 'd' '\x7d') := by
  funext d
  simp only [Table.or, single, brace?]
  by_cases hB : d = 'B'
  · simp [hB]
  by_cases hb : d = 'b'
  · simp [hb]
  by_cases hD : d = 'D'
  · simp [hD]
  by_cases hd : d = 'd'
  · simp [hd]
  · simp [hB, hb, hD, hd]

/-- A table of braces only. -/
def Table.IsOfBraces (t : Table) : Prop := ∀ d c, t d = some c → c = '\x7b' ∨ c = '\x7d'

theorem isOfBraces_single {digit brace : Char} (h : brace = '\x7b' ∨ brace = '\x7d') :
    (single digit brace).IsOfBraces := by
  intro d c hd
  obtain ⟨-, rfl⟩ := single_eq_some_iff.mp hd
  exact h

theorem Table.IsOfBraces.or (ht : t.IsOfBraces) (hu : u.IsOfBraces) : (Table.or t u).IsOfBraces := by
  intro d c hd
  rcases Table.or_eq_some_iff.mp hd with hd | ⟨-, hd⟩
  · exact ht d c hd
  · exact hu d c hd

/-- Braces are no part of an escape, unless one of them ends it. -/
theorem Table.IsOfBraces.apart (ht : t.IsOfBraces) (hopen : u '\x7b' = none) (hclose : u '\x7d' = none)
    (hstart : u '%' = none) : Apart t u := by
  refine ⟨fun d c h => ?_, fun d c h => ?_, fun d c h => ?_, hstart⟩
  · rcases ht d c h with rfl | rfl <;> decide
  · rcases ht d c h with rfl | rfl <;> decide
  · rcases ht d c h with rfl | rfl
    · exact hopen
    · exact hclose

theorem apart_brace? : Apart brace? brace? := by
  have hopen (digit : Char) : (single digit '\x7b').IsOfBraces := isOfBraces_single (.inl rfl)
  have hclose (digit : Char) : (single digit '\x7d').IsOfBraces := isOfBraces_single (.inr rfl)
  have hall : Table.IsOfBraces brace? := by
    rw [brace?_eq_or]
    exact (((hopen 'B').or (hopen 'b')).or (hclose 'D')).or (hclose 'd')
  exact hall.apart rfl rfl rfl

/-- **Four replacements are one pass.** They put in braces only, and no escape contains a brace, so the
order of the four does not matter. -/
theorem decode_eq_decodeOnce (cs : List Char) : decode cs = decodeOnce cs := by
  have hB : (single 'B' '\x7b').IsOfBraces := isOfBraces_single (.inl rfl)
  have hb : (single 'b' '\x7b').IsOfBraces := isOfBraces_single (.inl rfl)
  have hD : (single 'D' '\x7d').IsOfBraces := isOfBraces_single (.inr rfl)
  rw [decode, decodeOnce_eq_replaceEscapes, brace?_eq_or]
  simp only [unescape_eq_replaceEscapes]
  rw [replaceEscapes_replaceEscapes (hB.apart rfl rfl rfl),
    replaceEscapes_replaceEscapes ((hB.or hb).apart rfl rfl rfl),
    replaceEscapes_replaceEscapes (((hB.or hb).or hD).apart rfl rfl rfl)]

/-- **Decoded texts stay as they are** when they are decoded again, so it does not matter how often a
key is decoded on its way. -/
theorem decode_decode (cs : List Char) : decode (decode cs) = decode cs := by
  have hself : Table.or brace? brace? = brace? := by
    funext d
    exact Option.or_self
  simp only [decode_eq_decodeOnce, decodeOnce_eq_replaceEscapes]
  rw [replaceEscapes_replaceEscapes apart_brace?, hself]

/-- **No escape is left** in a decoded text. -/
theorem not_isInfix_decode (hd : d ∈ ['B', 'b', 'D', 'd']) (cs : List Char) :
    ¬ ['%', '7', d] <:+: decode cs := by
  rw [decode_eq_decodeOnce, decodeOnce_eq_replaceEscapes]
  have hbrace : ∃ c, brace? d = some c := by
    simp only [List.mem_cons, List.not_mem_nil, or_false] at hd
    rcases hd with rfl | rfl | rfl | rfl
    · exact ⟨_, rfl⟩
    · exact ⟨_, rfl⟩
    · exact ⟨_, rfl⟩
    · exact ⟨_, rfl⟩
  obtain ⟨c, hc⟩ := hbrace
  exact not_isInfix_replaceEscapes apart_brace? hc cs

end Braces

namespace Resolution

/-- **The key of a request is decoded**, so that decoding it again leaves it as it is. -/
theorem decode_requestKey (basePath path : String) :
    Braces.decode (requestKey basePath path).toList = (requestKey basePath path).toList := by
  rw [requestKey, String.toList_ofList, Braces.decode_decode]

/-- The placeholders of a resolved path are those of the decoded template. -/
theorem names_path (template : String) (pool : ValuePool) (deps : Dependencies) :
    ((path template pool deps).segments.filterMap (·.named?)).map (·.1) =
      (PathToken.names (Braces.decode template.toList)).map String.ofList := by
  rw [path, PathToken.names, List.filterMap_map, List.map_filterMap, List.map_filterMap]
  refine List.filterMap_congr fun token _ => ?_
  cases token <;> rfl

/-- **Braces are decoded all at once.** Replacing the four escapes one after the other comes to one pass from
left to right, leaves none of them, and changes nothing when it is done again. So the key of a request is
decoded already, whatever base path and path it is made of, and its placeholders are those of base path and path
resolved, in their order and whatever values there are for them. -/
theorem braces_decoded_at_once :
    (∀ cs, Braces.decode cs = Braces.decodeOnce cs ∧
      (∀ d ∈ ['B', 'b', 'D', 'd'], ¬ ['%', '7', d] <:+: Braces.decode cs) ∧
      Braces.decode (Braces.decode cs) = Braces.decode cs) ∧
    ∀ basePath path,
      Braces.decode (requestKey basePath path).toList = (requestKey basePath path).toList ∧
      ∀ pool deps,
        (PathToken.names (requestKey basePath path).toList).map String.ofList =
          ((Resolution.path (basePath ++ path) pool deps).segments.filterMap (·.named?)).map (·.1) := by
  refine ⟨fun cs => ⟨Braces.decode_eq_decodeOnce cs, fun d hd => Braces.not_isInfix_decode hd cs,
    Braces.decode_decode cs⟩, fun basePath path => ⟨decode_requestKey basePath path, ?_⟩⟩
  intro pool deps
  rw [names_path, requestKey, String.toList_ofList]

/-- An escape that is formed where base path and path meet is decoded like any other. -/
example : requestKey "/v1/%" "7Bid%7d/%%7b7B" = "/v1/\x7bid\x7d/%\x7b7B" := by
  cbv

end Resolution

end ApiScaffold
