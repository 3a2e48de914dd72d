import ApiScaffold.FileTree
import ApiScaffold.Proofs.FilePath

/-!
# What file operations leave in a tree

A path is resolved through directories alone. So it goes where it went when directories are added
(`FileTree.Extends.place?`), and writing a file, which leaves the directories as they are, does not change
where later files go or whether they can be written (`FileTree.SameDirectories.takes_iff`). Directories are
only ever made where nothing stands (`FileTree.Adds`).
-/

namespace ApiScaffold.FileTree

variable {tree after last : FileTree} {place : Place} {path text : String}

/-! ### Operations in a tree -/

section

variable {α β : Type}

/-- Actions are run one after the other: the second sees the tree that the first left behind. -/
theorem run_bind (action : StateM FileTree α) (next : α → StateM FileTree β) :
    (action >>= next).run tree = (next (action.run tree).1).run (action.run tree).2 := rfl

/-- Loading reads a file and parses its text. The tree stays as it was. -/
theorem run_load (parse? : String → Option α) :
    (Files.load parse? path : StateM FileTree (Except LoadFault α)).run tree =
      (Files.valueOf parse? .unreadable (tree.text? path), tree) := rfl

theorem run_makeDirectory :
    (Files.makeDirectory path : StateM FileTree Bool).run tree = tree.makeDirectory path := rfl

theorem run_write : (Files.write path text : StateM FileTree Bool).run tree = tree.write path text :=
  rfl

end

/-! ### Nodes -/

/-- Below the root, a place is looked up under its text. -/
theorem at?_of_ne_nil (h : place ≠ []) : tree.at? place = tree.nodes.get? (placeText place) := by
  rw [at?, if_neg (by simpa using h)]

/-- The root is always a directory, so a place with anything else is not the root. -/
theorem ne_nil_of_at?_ne (h : tree.at? place ≠ some .directory) : place ≠ [] := by
  rintro rfl
  exact h rfl

/-- The nodes of other places stay. -/
theorem get?_put_of_ne {node : FileNode} {key : String} (h : placeText place ≠ key) :
    (tree.put place node).nodes.get? key = tree.nodes.get? key :=
  Entries.get?_insert_of_ne _ _ h

/-- What is put at a place is found under its text. -/
theorem get?_put_self {node : FileNode} :
    (tree.put place node).nodes.get? (placeText place) = some node :=
  Entries.get?_insert_self ..

/-- What is put at a place shows there and nowhere else. The root stays a directory, whatever is put
there. -/
theorem at?_put {node : FileNode} (other : Place) :
    (tree.put place node).at? other =
      if other ≠ [] ∧ placeText place = placeText other then some node else tree.at? other := by
  by_cases hother : other = []
  · rw [hother, if_neg (fun h => h.1 rfl)]
    rfl
  rw [at?_of_ne_nil hother, at?_of_ne_nil hother]
  by_cases heq : placeText place = placeText other
  · rw [if_pos ⟨hother, heq⟩, ← heq, get?_put_self]
  · rw [if_neg fun h => heq h.2, get?_put_of_ne heq]

/-- **A text at a place**: a device takes it and stays, and otherwise it is the text of a file. -/
def writeAt (tree : FileTree) (place : Place) (text : String) : FileTree :=
  match tree.at? place with
  | some .device => tree
  | _ => tree.put place (.file text)

/-- A text at a place is nowhere else. -/
theorem get?_writeAt_of_ne {key : String} (h : placeText place ≠ key) :
    (tree.writeAt place text).nodes.get? key = tree.nodes.get? key := by
  rw [writeAt]
  split
  · rfl
  · exact get?_put_of_ne h

/-! ### Directories -/

/-- **More directories**: a tree that has those of another, and all else that paths and writing depend
on. -/
structure Extends (tree after : FileTree) : Prop where
  here : after.here = tree.here
  readOnly : after.readOnly = tree.readOnly
  pages : after.pages = tree.pages
  directories : ∀ place, tree.at? place = some .directory → after.at? place = some .directory

theorem Extends.refl (tree : FileTree) : Extends tree tree := ⟨rfl, rfl, rfl, fun _ h => h⟩

theorem Extends.trans (h : Extends tree after) (h' : Extends after last) : Extends tree last where
  here := h'.here.trans h.here
  readOnly := h'.readOnly.trans h.readOnly
  pages := h'.pages.trans h.pages
  directories place hplace := h'.directories place (h.directories place hplace)

/-- Read-only nodes stay read-only, and no others become so. -/
theorem Extends.isReadOnly (h : Extends tree after) : after.isReadOnly place = tree.isReadOnly place := by
  rw [FileTree.isReadOnly, FileTree.isReadOnly, h.readOnly]

/-- A step that leads on in a tree leads to the same place in one that extends it: nothing that was
there has moved. -/
theorem Extends.step? (h : Extends tree after) {name : List Char} {next : Place}
    (hstep : tree.step? place name = some next) : after.step? place name = some next := by
  rw [FileTree.step?] at hstep ⊢
  by_cases hplace : tree.at? place = some .directory
  · rw [if_neg (not_not.mpr hplace)] at hstep
    rwa [if_neg (not_not.mpr (h.directories place hplace))]
  · rw [if_pos hplace] at hstep
    cases hstep

/-- **A path goes where it went** when directories are added. Only paths that led nowhere may lead
somewhere now. -/
theorem Extends.place? (h : Extends tree after) (hplace : tree.place? path = some place) :
    after.place? path = some place := by
  have hsteps (names : List (List Char)) (start : Place)
      (hnames : names.foldlM tree.step? start = some place) :
      names.foldlM after.step? start = some place := by
    -- each step starts in a directory, and there it is the same step
    induction names generalizing start with
    | nil => exact hnames
    | cons name rest ih =>
      obtain ⟨next, hnext, hrest⟩ := Option.bind_eq_some_iff.mp hnames
      exact Option.bind_eq_some_iff.mpr ⟨next, h.step? hnext, ih next hrest⟩
  rw [FileTree.place?] at hplace ⊢
  split at hplace
  · cases hplace
  · rw [if_neg ‹_›, h.here]
    exact hsteps _ _ hplace

/-- **The same directories**, and all else that paths and writing depend on. -/
def SameDirectories (tree after : FileTree) : Prop := Extends tree after ∧ Extends after tree

theorem SameDirectories.refl (tree : FileTree) : SameDirectories tree tree :=
  ⟨.refl tree, .refl tree⟩

theorem SameDirectories.trans (h : SameDirectories tree after) (h' : SameDirectories after last) :
    SameDirectories tree last := ⟨h.1.trans h'.1, h'.2.trans h.2⟩

/-- **Paths lead to the same places** where the directories are the same, whatever the files hold. -/
theorem SameDirectories.place?_eq (h : SameDirectories tree after) (path : String) :
    after.place? path = tree.place? path := by
  refine Option.ext fun place => ⟨h.2.place?, h.1.place?⟩

theorem SameDirectories.at?_iff (h : SameDirectories tree after) :
    after.at? place = some .directory ↔ tree.at? place = some .directory :=
  ⟨h.2.directories place, h.1.directories place⟩

/-- Where no directory stands, a text leaves the directories as they are. -/
theorem sameDirectories_writeAt (h : tree.at? place ≠ some .directory) :
    SameDirectories tree (tree.writeAt place text) := by
  rw [writeAt]
  split
  · exact .refl tree
  · have hiff (other : Place) : (tree.put place (.file text)).at? other = some .directory ↔
        tree.at? other = some .directory := by
      have hne := ne_nil_of_at?_ne h
      rw [at?_put]
      split
      · -- a place of the same text has the same node
        rename_i heq
        rw [at?_of_ne_nil heq.1, ← heq.2, ← at?_of_ne_nil hne]
        exact iff_of_false nofun h
      · exact Iff.rfl
    exact ⟨⟨rfl, rfl, rfl, fun other => (hiff other).mpr⟩, ⟨rfl, rfl, rfl, fun other => (hiff other).mp⟩⟩

/-! ### Writing a file -/

/-- **Places that take a file** of a path. -/
structure Takes (tree : FileTree) (path : String) (place : Place) : Prop where
  leads : tree.place? path = some place
  isFile : FilePath.namesDirectory path = false
  writable : tree.isReadOnly place = false
  free : tree.at? place ≠ some .directory

/-- **A file is written** where it can be: there it holds the text, and nothing else changes. -/
theorem write_of_takes (h : tree.Takes path place) :
    tree.write path text = (true, tree.writeAt place text) := by
  rw [write, h.leads]
  dsimp only
  rw [h.isFile, h.writable, Bool.or_false, if_neg Bool.false_ne_true, writeAt]
  rcases hnode : tree.at? place with _ | _ | _ | _
  · rfl
  · rfl
  · exact absurd hnode h.free
  · rfl

/-- A file that no place takes is not written. -/
theorem write_of_not_takes (h : ¬ ∃ place, tree.Takes path place) :
    tree.write path text = (false, tree) := by
  rw [write]
  cases hplace : tree.place? path with
  | none => rfl
  | some place =>
    dsimp only
    by_cases hrefused : (FilePath.namesDirectory path || tree.isReadOnly place) = true
    · rw [if_pos hrefused]
    · rw [if_neg hrefused]
      rw [Bool.not_eq_true, Bool.or_eq_false_iff] at hrefused
      have hdirectory : tree.at? place = some .directory :=
        not_not.mp fun hfree => h ⟨place, hplace, hrefused.1, hrefused.2, hfree⟩
      rw [hdirectory]

/-- **Success of writing** depends on the path alone, not on the text. So whether a run can write its
outputs is known before they are rendered. -/
theorem write_fst_iff : (tree.write path text).1 = true ↔ ∃ place, tree.Takes path place := by
  by_cases h : ∃ place, tree.Takes path place
  · obtain ⟨place, hplace⟩ := h
    rw [write_of_takes hplace]
    exact iff_of_true rfl ⟨place, hplace⟩
  · rw [write_of_not_takes h]
    exact iff_of_false Bool.false_ne_true h

/-- **What was written is there**, unless a device took it: a device accepts every text and keeps none.
-/
theorem text?_of_write (h : tree.write path text = (true, after))
    (hdevice : tree.node? path ≠ some .device) : after.text? path = some text := by
  obtain ⟨place, hplace⟩ := write_fst_iff.mp (congrArg Prod.fst h)
  rw [write_of_takes hplace] at h
  obtain rfl := (Prod.mk.inj h).2
  have hnode : tree.at? place ≠ some .device := by
    intro hat
    rw [node?, hplace.leads, Option.bind_some, hat] at hdevice
    simp [hplace.isFile] at hdevice
  have hput : tree.writeAt place text = tree.put place (.file text) := by
    rw [writeAt]
    split
    · exact absurd ‹_› hnode
    · rfl
  have hthere : (tree.writeAt place text).at? place = some (.file text) := by
    rw [hput, at?_put, if_pos ⟨ne_nil_of_at?_ne hplace.free, rfl⟩]
  rw [text?, node?, (sameDirectories_writeAt hplace.free).place?_eq, hplace.leads, Option.bind_some,
    hthere]
  simp [hplace.isFile, FileNode.text?]

/-- Where a file can be written depends on the directories only, and so survives a change of files. -/
theorem SameDirectories.takes_iff (h : SameDirectories tree after) :
    after.Takes path place ↔ tree.Takes path place := by
  constructor
  · rintro ⟨hleads, hfile, hwritable, hfree⟩
    exact ⟨h.2.place? hleads, hfile, h.2.isReadOnly.trans hwritable, mt h.at?_iff.mpr hfree⟩
  · rintro ⟨hleads, hfile, hwritable, hfree⟩
    exact ⟨h.1.place? hleads, hfile, h.1.isReadOnly.trans hwritable, mt h.at?_iff.mp hfree⟩

/-! #### Files in a directory -/

/-- A path leads to a place if it is short enough and each of its parts leads on, from the root or from
the working directory. -/
theorem place?_eq_some : tree.place? path = some place ↔
    path ≠ "" ∧ FilePath.isShort path = true ∧
      (FilePath.parts path).foldlM tree.step?
        (if FilePath.isAbsolute path then [] else tree.here) = some place := by
  rw [place?]
  by_cases hempty : path = ""
  · simp [hempty]
  by_cases hshort : FilePath.isShort path = true
  · simp [hempty, hshort]
  · simp [hshort]

/-- A step by the name of an entry leads below the place where it starts, if it leads anywhere. -/
theorem eq_of_step?_isName {name : List Char} (hname : FilePath.IsName name) {next : Place}
    (h : tree.step? place name = some next) : next = place ++ [name] := by
  rw [step?, if_neg hname.ne_samePlace, if_neg hname.ne_upwards] at h
  split at h
  · cases h
  · split at h
    · exact (Option.some.inj h).symm
    · cases h

/-- **The place of a file in a directory** is one step from that of the directory. -/
theorem place?_join {directory name : String} {base : Place}
    (hbase : tree.place? directory = some base) (hname : FilePath.IsName name.toList)
    (h : tree.place? (FilePath.join directory name) = some place) :
    place = base ++ [name.toList] := by
  obtain ⟨hne, -, hbase⟩ := place?_eq_some.mp hbase
  obtain ⟨-, -, h⟩ := place?_eq_some.mp h
  rw [FilePath.parts_join hne hname, FilePath.isAbsolute_join hne hname, List.foldlM_append,
    hbase] at h
  exact eq_of_step?_isName hname (by simpa using h)

/-- What stands somewhere has a place. -/
theorem exists_place?_of_node? (h : (tree.node? path).isSome = true) :
    ∃ place, tree.place? path = some place := by
  rw [node?] at h
  cases hplace : tree.place? path with
  | some place => exact ⟨place, rfl⟩
  | none =>
    rw [hplace] at h
    cases hdirectory : FilePath.namesDirectory path <;>
      simp [hdirectory] at h

/-! ### Making directories -/

/-- **Added directories**: at the places of some paths, where nothing stood before. -/
structure Adds (paths : List String) (tree after : FileTree) : Prop extends Extends tree after where
  added : ∀ key, after.nodes.get? key ≠ tree.nodes.get? key → tree.nodes.get? key = none ∧
    after.nodes.get? key = some .directory ∧
    ∃ path ∈ paths, ∃ place, after.place? path = some place ∧ placeText place = key

theorem adds_nil (tree : FileTree) : Adds [] tree tree :=
  ⟨.refl tree, fun _ h => absurd rfl h⟩

/-- Directories that are made one after the other are all added. -/
theorem Adds.cons {paths : List String} (h : Adds [path] tree after) (h' : Adds paths after last) :
    Adds (path :: paths) tree last := by
  refine ⟨h.toExtends.trans h'.toExtends, fun key hkey => ?_⟩
  by_cases heq : last.nodes.get? key = after.nodes.get? key
  · rw [heq] at hkey ⊢
    obtain ⟨hnone, hsome, p, hp, place, hplace, htext⟩ := h.added key hkey
    obtain rfl := List.mem_singleton.mp hp
    exact ⟨hnone, hsome, p, List.mem_cons_self, place, h'.place? hplace, htext⟩
  · obtain ⟨hnone, hsome, p, hp, place, hplace, htext⟩ := h'.added key heq
    -- what the second run adds was not there before the first one either
    have hbefore : tree.nodes.get? key = none := by
      by_contra hthere
      have hsame : after.nodes.get? key ≠ tree.nodes.get? key := hnone ▸ Ne.symm hthere
      exact hthere (h.added key hsame).1
    exact ⟨hbefore, hsome, p, List.mem_cons_of_mem _ hp, place, hplace, htext⟩

/-- **A directory that is made** is there then, and nothing else is new. One that was there before is
simply kept. -/
theorem adds_of_makeDirectory (h : tree.makeDirectory path = (true, after)) :
    Adds [path] tree after ∧
      ∃ place, after.place? path = some place ∧ after.at? place = some .directory := by
  rw [makeDirectory] at h
  cases hplace : tree.place? path with
  | none =>
    rw [hplace] at h
    cases h
  | some place =>
    rw [hplace] at h
    dsimp only at h
    split at h
    · obtain rfl := (Prod.mk.inj h).2
      exact ⟨⟨.refl tree, fun _ hkey => absurd rfl hkey⟩, place, hplace, ‹_›⟩
    · cases h
    · split at h
      · cases h
      · obtain rfl := (Prod.mk.inj h).2
        have hnone : tree.at? place = none := ‹_›
        have hne : place ≠ [] := ne_nil_of_at?_ne (by rw [hnone]; nofun)
        have hextends : Extends tree (tree.put place .directory) := by
          refine ⟨rfl, rfl, rfl, fun other hother => ?_⟩
          rw [at?_put, hother, ite_self]
        refine ⟨⟨hextends, fun key hkey => ?_⟩, place, hextends.place? hplace, ?_⟩
        · have hkey : placeText place = key := by
            by_contra h
            exact hkey (get?_put_of_ne h)
          rw [← hkey, ← at?_of_ne_nil hne, get?_put_self]
          exact ⟨hnone, rfl, path, List.mem_singleton_self _, place, hextends.place? hplace, rfl⟩
        · rw [at?_put, if_pos ⟨hne, rfl⟩]

/-- **Directories made one after the other** are all there at the end. -/
theorem adds_of_makeEach {paths : List String}
    (h : (Files.makeEach paths : StateM FileTree Bool).run tree = (true, after)) :
    Adds paths tree after ∧ ∀ path ∈ paths,
      ∃ place, after.place? path = some place ∧ after.at? place = some .directory := by
  induction paths generalizing tree with
  | nil =>
    obtain rfl := (Prod.mk.inj h).2
    exact ⟨adds_nil tree, nofun⟩
  | cons path rest ih =>
    rw [Files.makeEach, run_bind, run_makeDirectory] at h
    cases hmade : (tree.makeDirectory path).1 with
    | false =>
      rw [hmade] at h
      cases h
    | true =>
      rw [hmade, if_pos rfl] at h
      obtain ⟨hadds, hrest⟩ := ih h
      obtain ⟨hfirst, place, hplace, hthere⟩ := adds_of_makeDirectory (Prod.ext hmade rfl)
      refine ⟨hfirst.cons hadds, List.forall_mem_cons.mpr ⟨?_, hrest⟩⟩
      exact ⟨place, hadds.place? hplace, hadds.directories place hthere⟩

end ApiScaffold.FileTree
