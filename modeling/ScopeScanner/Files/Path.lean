/-!
# Paths

A path is a text that names a file: names separated by slashes. Empty names and single dots between
slashes stand for nothing, and two dots stand for the directory above. A path that starts with a
slash starts at the top of the file system, whose name is the slash itself.
-/

namespace ScopeScanner.Path

/-- The parts of a text between slashes. -/
def split : List Char → List (List Char)
  | [] => [[]]
  | c :: rest =>
    if c = '/' then [] :: split rest
    else match split rest with
      | [] => [[c]]
      | part :: parts => (c :: part) :: parts

/-- Whether a path starts at the top of the file system. -/
def isAbsolute (path : String) : Bool :=
  path.toList.head? = some '/'

/-- The names of a path, without those that stand for nothing. -/
def names (path : String) : List String :=
  let parts := ((split path.toList).map String.ofList).filter fun name => name ≠ "" && name ≠ "."
  if isAbsolute path then "/" :: parts else parts

/-- Whether a path can only name a directory, because nothing or a dot follows its last slash. -/
def namesDirectory (path : String) : Bool :=
  match (split path.toList).reverse with
  | last :: _ :: _ => last = [] || last = ['.']
  | _ => false

/-- The name of the file that a path leads to. -/
def fileName? (path : String) : Option String :=
  match (names path).getLast? with
  | some name => if name = ".." || name = "/" then none else some name
  | none => none

/-- What follows the last dot of the file name, unless the name starts with that dot. -/
def extension? (path : String) : Option String := do
  let name ← fileName? path
  let reversed := name.toList.reverse
  match reversed.dropWhile (· ≠ '.') with
  | _ :: _ :: _ => some (String.ofList (reversed.takeWhile (· ≠ '.')).reverse)
  | _ => none

/-- The path of a file in a directory. -/
def join (directory name : String) : String :=
  match directory.toList.getLast? with
  | none => name
  | some '/' => directory ++ name
  | some _ => directory ++ "/" ++ name

/-- The path of a list of names below a directory. -/
def joinAll (directory : String) (names : List String) : String :=
  names.foldl join directory

/-- Number of bytes that a path may have at most. -/
def maxSize : Nat := 4095

/-- Whether a path has more bytes than the system takes. It leads nowhere, whatever is there. -/
def isTooLong (path : String) : Bool :=
  maxSize < path.utf8ByteSize

/-- Whether the system looks for what a path leads to. -/
def isUsable (path : String) : Bool :=
  !path.isEmpty && !isTooLong path

end ScopeScanner.Path
