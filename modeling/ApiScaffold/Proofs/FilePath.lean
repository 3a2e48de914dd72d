import ApiScaffold.FilePath
import ApiScaffold.Proofs.FileName

/-!
# Paths of files below a directory

A plain name below a directory is one more part of its path (`FilePath.parts_join`): what stands in the
directory is reached through the directory, and by one step from there. The files of outputs have plain
names (`Output.isName_fileName`).
-/

namespace ApiScaffold

namespace FilePath

/-- **Plain names**: not empty, without slashes, and leading neither to the same place nor upwards. -/
structure IsName (name : List Char) : Prop where
  ne_nil : name ≠ []
  no_slash : '/' ∉ name
  ne_samePlace : name ≠ samePlace
  ne_upwards : name ≠ upwards

/-! ### Parts -/

/-- A text without a slash is one part. -/
theorem splitFrom_of_no_slash {cs : List Char} (h : '/' ∉ cs) (current : List Char) :
    splitFrom current cs = [current.reverse ++ cs] := by
  induction cs generalizing current with
  | nil => simp [splitFrom]
  | cons c rest ih =>
    rw [List.mem_cons, not_or] at h
    obtain ⟨hc, hrest⟩ := h
    rw [splitFrom, if_neg (Ne.symm hc), ih hrest]
    simp

/-- A slash ends a part, and what follows it is split on its own. -/
theorem splitFrom_append_slash (cs rest current : List Char) :
    splitFrom current (cs ++ '/' :: rest) = splitFrom current cs ++ splitFrom [] rest := by
  induction cs generalizing current with
  | nil => simp [splitFrom]
  | cons c more ih =>
    rw [List.cons_append, splitFrom, splitFrom]
    by_cases hc : c = '/'
    · rw [if_pos hc, if_pos hc, ih, List.cons_append]
    · rw [if_neg hc, if_neg hc, ih]

variable {directory name : String}

/-- The text of a path below a directory: there is one slash between them at least. -/
theorem toList_join (hdirectory : directory ≠ "") (hname : IsName name.toList) :
    ∃ front, (front ++ ['/'] = directory.toList ∨ front = directory.toList) ∧
      (join directory name).toList = front ++ '/' :: name.toList := by
  have hrelative : isAbsolute name = false := by
    rw [isAbsolute, decide_eq_false_iff_not]
    exact fun h => hname.no_slash (List.mem_of_head? h)
  have hne : directory.isEmpty = false := by simpa using hdirectory
  rw [join, hrelative, hne, Bool.or_false, if_neg Bool.false_ne_true]
  by_cases hlast : directory.toList.getLast? = some '/'
  · obtain ⟨front, hfront⟩ := List.getLast?_eq_some_iff.mp hlast
    exact ⟨front, .inl hfront.symm, by simp [hfront]⟩
  · exact ⟨directory.toList, .inr rfl, by simp [hlast]⟩

/-- **A path below a directory** has one more part, and that part is the name. This is what makes a
file's place the place of its directory with the name added. -/
theorem parts_join (hdirectory : directory ≠ "") (hname : IsName name.toList) :
    parts (join directory name) = parts directory ++ [name.toList] := by
  obtain ⟨front, hfront, hjoin⟩ := toList_join hdirectory hname
  have hparts : parts directory = (splitFrom [] front).filter (!·.isEmpty) := by
    rw [parts]
    obtain h | h := hfront
    · rw [← h, splitFrom_append_slash, List.filter_append]
      simp [splitFrom]
    · rw [h]
  rw [hparts, parts, hjoin, splitFrom_append_slash, List.filter_append,
    splitFrom_of_no_slash hname.no_slash]
  simp [hname.ne_nil]

/-- A file is named absolutely if its directory is. -/
theorem isAbsolute_join (hdirectory : directory ≠ "") (hname : IsName name.toList) :
    isAbsolute (join directory name) = isAbsolute directory := by
  obtain ⟨front, hfront, hjoin⟩ := toList_join hdirectory hname
  rw [isAbsolute, isAbsolute, hjoin]
  obtain h | h := hfront
  · rw [← h]
    cases front <;> simp
  · cases front with
    | nil => exact absurd (by simpa using h.symm) hdirectory
    | cons c rest => rw [← h]; simp

end FilePath

namespace Output

open FileName (kept)

/-- The stem of an output is a name: sanitizing left no slash in it. -/
theorem no_slash_stem? {o : Output} {stem : List Char} (h : o.stem? = some stem) : '/' ∉ stem := by
  have hkept (name : String) : '/' ∉ kept name := by
    rw [kept, List.mem_filter]
    rintro ⟨-, h⟩
    cases h
  rw [stem?] at h
  split at h
  · obtain rfl := Option.some.inj h
    exact hkept o.name
  · obtain rfl := Option.some.inj h
    rw [List.mem_append]
    exact not_or.mpr ⟨hkept o.name, by decide⟩
  · cases h

/-- **Files of outputs have plain names**: no slash, and neither the working directory nor the one above
it. So no output leaves the output directory. -/
theorem isName_fileName (o : Output) : FilePath.IsName o.fileName.toList := by
  cases h : o.stem? with
  | none =>
    rw [fileName_of_stem?_eq_none h]
    constructor <;> decide
  | some stem =>
    rw [fileName_of_stem? h, String.toList_ofList]
    have hlength : 8 ≤ (stem ++ testEnding).length := by
      rw [List.length_append]
      exact Nat.le_add_left ..
    have hne (short : List Char) (hshort : short.length < 8) : stem ++ testEnding ≠ short := by
      rintro rfl
      omega
    refine ⟨hne _ (by decide), ?_, hne _ (by decide), hne _ (by decide)⟩
    rw [List.mem_append]
    exact not_or.mpr ⟨no_slash_stem? h, by decide⟩

end Output

end ApiScaffold
