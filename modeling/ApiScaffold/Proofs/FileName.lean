import ApiScaffold.Generation
import Mathlib.Data.List.DropRight

/-!
# What a file name keeps of a name

The file of a test is named by its output, and what no platform takes is dropped from the name. The
endings of tests are kept as they are, so all that is lost is lost in the name before them: the file
of an output is its stem (`Output.stem?`) with one common ending, and outputs have one file exactly
if they have one stem.
-/

namespace ApiScaffold

namespace FileName

/-- **The characters of a name that may stand in a file name.** -/
def kept (name : String) : List Char := name.toList.filter isAllowed

/-- What is dropped at the end of a file name. -/
def isDroppedEnd (c : Char) : Bool := c = ' ' || c = '.'

theorem kept_append (a b : String) : kept (a ++ b) = kept a ++ kept b := by
  rw [kept, String.toList_append, List.filter_append]
  rfl

/-- A name whose kept part ends in a proper character is what it keeps. -/
theorem sanitize_of_kept_eq {name : String} {front : List Char} {last : Char}
    (h : kept name = front ++ [last]) (hlast : isDroppedEnd last = false) :
    sanitize name = String.ofList (kept name) := by
  have hdrop : Text.dropEndWhile isDroppedEnd (kept name) = kept name := by
    rw [h]
    exact List.rdropWhile_concat_neg _ _ last (by simp [hlast])
  have hne : (kept name).isEmpty = false := by simp [h]
  change (if (Text.dropEndWhile isDroppedEnd (kept name)).isEmpty then fallback
    else String.ofList (Text.dropEndWhile isDroppedEnd (kept name))) = _
  rw [hdrop, hne, if_neg Bool.false_ne_true]

end FileName

namespace Output

open FileName (kept)

/-- The ending of every file of tests. -/
def testEnding : List Char := "-test.js".toList

/-- What stands before the ending in the file of a sequence. -/
def sequenceMark : List Char := "-sequence".toList

/-- **The stem of a file of tests**: what is kept of the name of the output, and for a sequence the mark
of sequences. -/
def stem? (o : Output) : Option (List Char) :=
  match o.block with
  | .path _ => some (kept o.name)
  | .sequence _ => some (kept o.name ++ sequenceMark)
  | .environment _ => none

theorem fileName_path (name : String) (block : PathBlock) :
    (⟨name, .path block⟩ : Output).fileName = String.ofList (kept name ++ testEnding) := by
  have h : kept (name ++ "-test.js") = kept name ++ testEnding := FileName.kept_append ..
  have hlast : kept (name ++ "-test.js") = (kept name ++ "-test.j".toList) ++ ['s'] := by
    rw [h, List.append_assoc]
    rfl
  rw [← h]
  exact FileName.sanitize_of_kept_eq hlast rfl

theorem fileName_sequence (name : String) (block : SequenceBlock) :
    (⟨name, .sequence block⟩ : Output).fileName =
      String.ofList (kept name ++ sequenceMark ++ testEnding) := by
  have h : kept (name ++ "-sequence-test.js") = kept name ++ sequenceMark ++ testEnding := by
    rw [FileName.kept_append, List.append_assoc]
    rfl
  have hlast : kept (name ++ "-sequence-test.js") =
      (kept name ++ "-sequence-test.j".toList) ++ ['s'] := by
    rw [h, List.append_assoc, List.append_assoc]
    rfl
  rw [← h]
  exact FileName.sanitize_of_kept_eq hlast rfl

/-- The file of tests is its stem with the ending of tests. -/
theorem fileName_of_stem? {o : Output} {stem : List Char} (h : o.stem? = some stem) :
    o.fileName = String.ofList (stem ++ testEnding) := by
  obtain ⟨name, block⟩ := o
  cases block with
  | path block =>
    obtain rfl := Option.some.inj h
    exact fileName_path name block
  | sequence block =>
    obtain rfl := Option.some.inj h
    exact fileName_sequence name block
  | environment block => cases h

theorem fileName_of_stem?_eq_none {o : Output} (h : o.stem? = none) :
    o.fileName = environmentName := by
  obtain ⟨name, block⟩ := o
  cases block with
  | path block => cases h
  | sequence block => cases h
  | environment block => rfl

/-- No test has the file of the environment, whose name ends otherwise. -/
theorem fileName_ne_environmentName {o : Output} {stem : List Char} (h : o.stem? = some stem) :
    o.fileName ≠ environmentName := by
  intro heq
  have hlength : (stem ++ testEnding).length = environmentName.toList.length := by
    rw [← heq, fileName_of_stem? h, String.toList_ofList]
  have htest : testEnding.length = 8 := rfl
  have henvironment : environmentName.toList.length = 4 := rfl
  rw [List.length_append] at hlength
  omega

/-- **One file means one stem.** The ending of a test says nothing about what it tests, so two outputs
meet in a file exactly if sanitizing leaves the same of both names. -/
theorem fileName_eq_iff (a b : Output) : a.fileName = b.fileName ↔ a.stem? = b.stem? := by
  cases ha : a.stem? with
  | none =>
    rw [fileName_of_stem?_eq_none ha]
    cases hb : b.stem? with
    | none => simp [fileName_of_stem?_eq_none hb]
    | some t => simpa using (fileName_ne_environmentName hb).symm
  | some s =>
    cases hb : b.stem? with
    | none =>
      rw [fileName_of_stem?_eq_none hb]
      simpa using fileName_ne_environmentName ha
    | some t =>
      rw [fileName_of_stem? ha, fileName_of_stem? hb, String.ofList_inj, List.append_left_inj,
        Option.some_inj]

end Output

end ApiScaffold
