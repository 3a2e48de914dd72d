import ApiScaffold.Proofs.FilePath
import ApiScaffold.Proofs.Text.Words

/-!
# Safe file names

What `FileName.sanitize` gives is safe (`FileName.IsSafe`), and safe names are just those that it leaves as
they are. So a second pass changes nothing, although dropping characters may bring new spaces and dots to
the end of a name: these are looked for only after all else is dropped.

A safe name leads neither upwards nor through a slash, so the file of an output stands in the output
directory itself, whatever that is (`FilePath.IsEntry`).
-/

namespace ApiScaffold

namespace FileName

/-- **Safe names**: not empty, without control characters and reserved punctuation, and with neither a
space nor a dot at the end. -/
structure IsSafe (name : List Char) : Prop where
  ne_nil : name ≠ []
  no_control : ∀ c ∈ name, Unicode.isControl c = false
  no_reserved : ∀ c ∈ name, c ∉ ['/', '\\', '?', '<', '>', ':', '*', '|', '"']
  last : ∀ c ∈ name.getLast?, c ≠ ' ' ∧ c ≠ '.'

theorem isAllowed_iff {c : Char} : isAllowed c = true ↔
    Unicode.isControl c = false ∧ c ∉ ['/', '\\', '?', '<', '>', ':', '*', '|', '"'] := by
  simp [isAllowed, isReserved, and_assoc]

theorem isDroppedEnd_eq_false_iff {c : Char} : isDroppedEnd c = false ↔ c ≠ ' ' ∧ c ≠ '.' := by
  simp [isDroppedEnd]

/-- Safe names in terms of what is dropped. -/
theorem isSafe_iff {name : List Char} : IsSafe name ↔
    name ≠ [] ∧ (∀ c ∈ name, isAllowed c = true) ∧ ∀ c ∈ name.getLast?, isDroppedEnd c = false := by
  simp only [isAllowed_iff, isDroppedEnd_eq_false_iff]
  constructor
  · intro h
    exact ⟨h.ne_nil, fun c hc => ⟨h.no_control c hc, h.no_reserved c hc⟩, h.last⟩
  · rintro ⟨hne, hallowed, hlast⟩
    exact ⟨hne, fun c hc => (hallowed c hc).1, fun c hc => (hallowed c hc).2, hlast⟩

theorem isSafe_fallback : IsSafe fallback.toList := by
  have hlist : fallback.toList = ['_'] := rfl
  rw [hlist, isSafe_iff]
  exact ⟨List.cons_ne_nil _ _, List.forall_mem_singleton.mpr rfl, fun c hc => Option.some.inj hc ▸ rfl⟩

/-! ### What sanitizing leaves -/

/-- **What is left of a name**: its allowed characters, without the spaces and dots at their end. -/
def left (name : String) : List Char := Text.dropEndWhile isDroppedEnd (kept name)

theorem sanitize_eq (name : String) :
    sanitize name = if (left name).isEmpty then fallback else String.ofList (left name) := rfl

/-- The end that is dropped has only spaces and dots, and is the longest such end. -/
theorem exists_left (name : String) :
    ∃ dropped, kept name = left name ++ dropped ∧ (∀ c ∈ dropped, isDroppedEnd c = true) ∧
      ∀ c ∈ (left name).getLast?, isDroppedEnd c = false :=
  Text.exists_dropEndWhile isDroppedEnd (kept name)

/-- Whatever is left is safe. -/
theorem isSafe_left {name : String} (h : left name ≠ []) : IsSafe (left name) := by
  obtain ⟨dropped, hkept, -, hlast⟩ := exists_left name
  refine isSafe_iff.mpr ⟨h, fun c hc => ?_, hlast⟩
  have hmem : c ∈ kept name := hkept ▸ List.mem_append_left dropped hc
  exact (List.mem_filter.mp hmem).2

/-- Nothing is dropped from a safe name. -/
theorem left_eq_of_isSafe {name : String} (h : IsSafe name.toList) : left name = name.toList := by
  obtain ⟨-, hallowed, hlast⟩ := isSafe_iff.mp h
  have hkept : kept name = name.toList := List.filter_eq_self.mpr hallowed
  obtain ⟨dropped, heq, hdropped, -⟩ := exists_left name
  rw [hkept] at heq
  cases hend : dropped.getLast? with
  | none =>
    rw [List.getLast?_eq_none_iff.mp hend, List.append_nil] at heq
    exact heq.symm
  | some c =>
    -- the last character of the name would be dropped
    have hc : name.toList.getLast? = some c := by
      rw [heq, List.getLast?_append, hend, Option.some_or]
    have hfalse := hlast c hc
    rw [hdropped c (List.mem_of_getLast? hend)] at hfalse
    cases hfalse

/-- **File names are safe**, whatever they are made of. Even a name of which nothing is left gets a safe
one in its place. -/
theorem isSafe_sanitize (name : String) : IsSafe (sanitize name).toList := by
  rw [sanitize_eq]
  by_cases h : left name = []
  · rw [h]
    exact isSafe_fallback
  · rw [if_neg (by simpa using h), String.toList_ofList]
    exact isSafe_left h

/-- **Safe names stay as they are**, and no others do. -/
theorem sanitize_eq_self_iff {name : String} : sanitize name = name ↔ IsSafe name.toList := by
  constructor
  · intro h
    rw [← h]
    exact isSafe_sanitize name
  · intro h
    have hleft := left_eq_of_isSafe h
    rw [sanitize_eq, hleft, if_neg (by simpa using h.ne_nil), String.ofList_toList]

/-- **What a file name keeps**: it is the fallback, where there is nothing to keep, or all that is allowed
in the name but the spaces and dots at the end of that. -/
theorem sanitize_cases (name : String) :
    sanitize name = fallback ∧ (∀ c ∈ kept name, c = ' ' ∨ c = '.') ∨
      ∃ dropped, kept name = (sanitize name).toList ++ dropped ∧ ∀ c ∈ dropped, c = ' ' ∨ c = '.' := by
  obtain ⟨dropped, hkept, hdropped, -⟩ := exists_left name
  have hends : ∀ c ∈ dropped, c = ' ' ∨ c = '.' := fun c hc => by
    simpa [isDroppedEnd] using hdropped c hc
  rw [sanitize_eq]
  by_cases h : left name = []
  · rw [h, List.nil_append] at hkept
    rw [h, hkept]
    exact .inl ⟨rfl, hends⟩
  · rw [if_neg (by simpa using h), String.toList_ofList]
    exact .inr ⟨dropped, hkept, hends⟩

/-- A safe name is a plain one: it has no slash, and its end is no dot. -/
theorem IsSafe.isName {name : List Char} (h : IsSafe name) : FilePath.IsName name where
  ne_nil := h.ne_nil
  no_slash hmem := h.no_reserved '/' hmem (by decide)
  ne_samePlace := by
    rintro rfl
    exact (h.last '.' rfl).2 rfl
  ne_upwards := by
    rintro rfl
    exact (h.last '.' rfl).2 rfl

end FileName

/-! ### Entries of a directory -/

namespace FilePath

/-- **An entry of a directory**: a path that starts where that of the directory does, and goes on from its
end by one plain name. -/
structure IsEntry (directory : String) (name : List Char) (path : String) : Prop where
  isName : IsName name
  isAbsolute : isAbsolute path = isAbsolute directory
  parts : parts path = parts directory ++ [name]

/-- **A plain name below a directory** is an entry of it; below the empty path it stands alone. -/
theorem isEntry_join (directory : String) {name : String} (h : IsName name.toList) :
    IsEntry directory name.toList (join directory name) := by
  by_cases hempty : directory = ""
  · subst hempty
    have hjoin : join "" name = name := by simp [join]
    refine ⟨h, ?_, ?_⟩
    · rw [hjoin, FilePath.isAbsolute, FilePath.isAbsolute]
      have hhead : name.toList.head? ≠ some '/' := fun hhead => h.no_slash (List.mem_of_head? hhead)
      simp [hhead]
    · rw [hjoin, FilePath.parts, splitFrom_of_no_slash h.no_slash]
      simp [h.ne_nil, FilePath.parts, splitFrom]
  · exact ⟨h, isAbsolute_join hempty h, parts_join hempty h⟩

end FilePath

namespace Output

/-- Only the environment has its file. -/
theorem fileName_eq_environmentName_iff (o : Output) :
    o.fileName = environmentName ↔ ∃ environment, o.block = .environment environment := by
  obtain ⟨name, block⟩ := o
  cases block with
  | path block => simpa using fileName_ne_environmentName (o := ⟨name, .path block⟩) rfl
  | sequence block => simpa using fileName_ne_environmentName (o := ⟨name, .sequence block⟩) rfl
  | environment block => simp [fileName]

end Output

namespace FileName

/-- **File names are safe and stable.** Every text gives a safe name, which a second pass leaves as it is,
and the texts that stay as they are are the safe names. The name is the fallback if all that is allowed in
the text are spaces and dots, and otherwise what is allowed in it up to the longest end of them. So the file
of every output is an entry of the output directory, and only the environment has the file of the
environment. -/
theorem sanitize_safe_and_stable :
    (∀ name, IsSafe (sanitize name).toList ∧ FilePath.IsName (sanitize name).toList ∧
      sanitize (sanitize name) = sanitize name ∧
      (sanitize name = name ↔ IsSafe name.toList) ∧
      (sanitize name = fallback ∧ (∀ c ∈ kept name, c = ' ' ∨ c = '.') ∨
        ∃ dropped, kept name = (sanitize name).toList ++ dropped ∧
          ∀ c ∈ dropped, c = ' ' ∨ c = '.')) ∧
    ∀ o : Output,
      (∀ directory, FilePath.IsEntry directory o.fileName.toList (FilePath.join directory o.fileName)) ∧
      (o.fileName = Output.environmentName ↔ ∃ environment, o.block = .environment environment) := by
  refine ⟨fun name => ?_, fun o => ?_⟩
  · have hsafe := isSafe_sanitize name
    exact ⟨hsafe, hsafe.isName, sanitize_eq_self_iff.mpr hsafe, sanitize_eq_self_iff,
      sanitize_cases name⟩
  · exact ⟨fun directory => FilePath.isEntry_join directory o.isName_fileName,
      o.fileName_eq_environmentName_iff⟩

/-- Dropping the question mark brings a dot to the end, which is dropped then. -/
example : sanitize "../pets. ?" = "..pets" := by decide +kernel

end FileName

end ApiScaffold
