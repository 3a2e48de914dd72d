import ApiScaffold.Entries
import ApiScaffold.FilePath
import ApiScaffold.Files

/-!
# Trees of files

The files of a machine as a value. A place is the list of names that lead there from the root, and the
tree lists its places in the order in which they came to be. With them come the places that take no
writing, and what the web answers. File operations on a tree are pure: `Files` of the state monad over
trees says what they do.
-/

namespace ApiScaffold

/-- **What stands at a place.** A device is empty for all who read it, and takes all that is written. -/
inductive FileNode where
  | file (text : String)
  | directory
  | device
  deriving DecidableEq, Repr, Inhabited

namespace FileNode

/-- The kind of a node. -/
def kind : FileNode → FileKind
  | file _ => .file
  | directory => .directory
  | device => .device

/-- The text that is read from a node. -/
def text? : FileNode → Option String
  | file text => some text
  | directory => none
  | device => some ""

end FileNode

/-- **A tree of files**: what stands at each place but the root, and the directory where relative paths
start. -/
structure FileTree where
  /-- What stands at places, by their texts. -/
  nodes : Entries FileNode := []
  /-- The names that lead from the root to the working directory. -/
  here : List (List Char) := []
  /-- The texts of the places where nothing can be written or made. -/
  readOnly : List String := []
  /-- The texts that the web has, by their addresses. -/
  pages : Entries String := []
  deriving Repr, Inhabited

namespace FileTree

/-- The names that lead to a place. -/
abbrev Place := List (List Char)

/-- The text of a place. -/
def placeText : Place → String
  | [] => ""
  | [name] => String.ofList name
  | name :: next :: rest => String.ofList name ++ "/" ++ placeText (next :: rest)

/-- The bytes that a name may have. -/
def nameLimit : Nat := 255

/-- Whether a name is short enough. -/
def isShort (name : List Char) : Bool := (String.ofList name).utf8ByteSize ≤ nameLimit

/-- The node of a place; the root is a directory. -/
def at? (tree : FileTree) (place : Place) : Option FileNode :=
  if place.isEmpty then some .directory else tree.nodes.get? (placeText place)

/-- Whether a place takes no writing. -/
def isReadOnly (tree : FileTree) (place : Place) : Bool := tree.readOnly.contains (placeText place)

/-- The tree with a node at a place. -/
def put (tree : FileTree) (place : Place) (node : FileNode) : FileTree :=
  { tree with nodes := tree.nodes.insert (placeText place) node }

/-- One step from a place, which has to be a directory. The root is above itself. -/
def step? (tree : FileTree) (place : Place) (name : List Char) : Option Place :=
  if tree.at? place ≠ some .directory then none
  else if name = FilePath.samePlace then some place
  else if name = FilePath.upwards then some place.dropLast
  else if isShort name then some (place ++ [name])
  else none

/-- **The place of a path**, whether or not anything stands there. -/
def place? (tree : FileTree) (path : String) : Option Place :=
  if path.isEmpty || !FilePath.isShort path then none
  else
    (FilePath.parts path).foldlM tree.step? (if FilePath.isAbsolute path then [] else tree.here)

/-- **The node of a path.** -/
def node? (tree : FileTree) (path : String) : Option FileNode :=
  match (tree.place? path).bind tree.at? with
  | some .directory => some .directory
  | node => if FilePath.namesDirectory path then none else node

/-- The text of a file. -/
def text? (tree : FileTree) (path : String) : Option String := (tree.node? path).bind FileNode.text?

/-- **Makes a directory** in one that is there, unless it is there already. -/
def makeDirectory (tree : FileTree) (path : String) : Bool × FileTree :=
  match tree.place? path with
  | none => (false, tree)
  | some place =>
    match tree.at? place with
    | some .directory => (true, tree)
    | some _ => (false, tree)
    | none => if tree.isReadOnly place then (false, tree) else (true, tree.put place .directory)

/-- **Writes a file** in a directory that is there. -/
def write (tree : FileTree) (path text : String) : Bool × FileTree :=
  match tree.place? path with
  | none => (false, tree)
  | some place =>
    if FilePath.namesDirectory path || tree.isReadOnly place then (false, tree)
    else
      match tree.at? place with
      | some .directory => (false, tree)
      | some .device => (true, tree)
      | _ => (true, tree.put place (.file text))

instance : Files (StateM FileTree) where
  kind? path := return ((← get).node? path).map FileNode.kind
  read? path := return (← get).text? path
  fetch? address := return (← get).pages.get? address
  makeDirectory path := modifyGet fun tree => tree.makeDirectory path
  write path text := modifyGet fun tree => tree.write path text

/-- The tree with a directory and those above it. -/
def addDirectory (tree : FileTree) (path : String) : FileTree :=
  ((Files.makeDirectories path : StateM FileTree Bool).run tree).2

/-- The tree with a file and the directories above it. -/
def addFile (tree : FileTree) (path text : String) : FileTree :=
  (((FilePath.ancestors path).foldl addDirectory tree).write path text).2

end FileTree

end ApiScaffold
