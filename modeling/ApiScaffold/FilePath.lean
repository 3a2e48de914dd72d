/-!
# Paths of files

A path is a text with slashes between its parts. `FilePath.extension?` gives what stands after the last
dot of its last part, `FilePath.join` puts a path below another, and `FilePath.ancestors` lists the
paths above a path.
-/

namespace ApiScaffold.FilePath

/-- The parts of a path between slashes; `current` is the reversed part so far. -/
def splitFrom (current : List Char) : List Char → List (List Char)
  | [] => [current.reverse]
  | c :: rest => if c = '/' then current.reverse :: splitFrom [] rest else splitFrom (c :: current) rest

/-- A dot, which stands for the place itself. -/
def samePlace : List Char := ['.']

/-- Two dots, which lead up. -/
def upwards : List Char := ['.', '.']

/-- **Parts of a path**; slashes side by side count as one. -/
def parts (path : String) : List (List Char) := (splitFrom [] path.toList).filter (!·.isEmpty)

/-- The parts of a path that lead to another place. -/
def steps (path : String) : List (List Char) := (parts path).filter (· ≠ samePlace)

/-- Whether a path ends in a slash, and so can only stand for a directory. -/
def namesDirectory (path : String) : Bool := path.toList.getLast? = some '/'

/-- Whether a path starts at the root. -/
def isAbsolute (path : String) : Bool := path.toList.head? = some '/'

/-- The bytes that a path may have, with one for its end. -/
def byteLimit : Nat := 4096

/-- Whether a path is short enough to stand for anything. -/
def isShort (path : String) : Bool := path.utf8ByteSize < byteLimit

/-- The last part that leads to another place, unless it leads up. -/
def fileName? (path : String) : Option (List Char) := (steps path).getLast?.filter (· ≠ upwards)

/-- What stands after the last dot of a name; a dot at its start is none. -/
def nameExtension? (name : List Char) : Option String :=
  match name.reverse.dropWhile (· ≠ '.') with
  | _ :: _ :: _ => some (String.ofList (name.reverse.takeWhile (· ≠ '.')).reverse)
  | _ => none

/-- **Extension** of a path. -/
def extension? (path : String) : Option String := (fileName? path).bind nameExtension?

/-- **A path below another.** -/
def join (directory name : String) : String :=
  if isAbsolute name || directory.isEmpty then name
  else if directory.toList.getLast? = some '/' then directory ++ name
  else directory ++ "/" ++ name

/-- The paths along a way that starts in a directory, without the last one. -/
def along (directory : String) : List (List Char) → List String
  | [] => []
  | [_] => []
  | name :: next :: rest =>
    let path := join directory (String.ofList name)
    path :: along path (next :: rest)

/-- **The paths above a path**, the uppermost first. -/
def ancestors (path : String) : List String :=
  along (if isAbsolute path then "/" else "") (steps path)

end ApiScaffold.FilePath
