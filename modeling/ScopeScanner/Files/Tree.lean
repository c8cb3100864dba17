import ScopeScanner.Files.Path
import ScopeScanner.Text.Utf8

/-!
# File trees

The files below one directory, as a value. Files are read and written by paths relative to that
directory. What lies above it, or is reached from the top of the file system, exists only if the tree
has entries with the names `..` or `/`. A file holds bytes, and reading it as text fails if they are
not UTF-8.
-/

namespace ScopeScanner

/-- The content of a file. -/
inductive Content where
  | text (value : String)
  /-- Bytes that are not UTF-8. -/
  | binary (bytes : List UInt8)
deriving DecidableEq, Repr

namespace Content

/-- The content made of some bytes. -/
def ofBytes (bytes : List UInt8) : Content :=
  match Utf8.text? bytes with
  | some value => text value
  | none => binary bytes

/-- The content for display, with replacement characters for what is not UTF-8. -/
def display : Content → String
  | text value => value
  | binary bytes => Utf8.display bytes

end Content

/-- Why a file could not be read or written. -/
inductive FileFault where
  | notFound
  | notADirectory
  | isADirectory
  | notText
deriving DecidableEq, Repr

/-- A fault in words. -/
def FileFault.message : FileFault → String
  | notFound => "No such file or directory (os error 2)"
  | notADirectory => "Not a directory (os error 20)"
  | isADirectory => "Is a directory (os error 21)"
  | notText => "stream did not contain valid UTF-8"

/-- A file, or a directory with the names of what is in it. -/
inductive FileTree where
  | file (content : Content)
  | directory (entries : List (String × FileTree))

namespace FileTree

/-- A directory without files. -/
def empty : FileTree := directory []

instance : Inhabited FileTree := ⟨empty⟩

/-- What a directory holds under a name. -/
def child (tree : FileTree) (name : String) : Except FileFault FileTree :=
  match tree with
  | file _ => throw .notADirectory
  | directory entries =>
    match entries.lookup name with
    | some node => return node
    | none => throw .notFound

/-- What stands at the end of a row of names. -/
def descend : FileTree → List String → Except FileFault FileTree
  | tree, [] => return tree
  | tree, name :: rest => do (← tree.child name).descend rest

/-- The directory above a row of names that is given last name first, if the row leads below the
directory it starts from. Nothing is above the top of the file system. -/
def above? : List String → Option (List String)
  | [] => none
  | name :: rest =>
    if name = ".." then none else if name = "/" then some (name :: rest) else some rest

/-- Follows a row of names, in which two dots lead back up, and returns the names that lead to the
same place from the start, the last one first. Everything passed on the way has to exist. -/
def resolve (tree : FileTree) : (done : List String) → List String → Except FileFault (List String)
  | done, [] => return done
  | done, name :: rest => do
    let here ← tree.descend done.reverse
    match here, if name = ".." then above? done else none with
    | file _, _ => throw .notADirectory
    | directory _, some above => tree.resolve above rest
    | directory _, none =>
      let _ ← here.child name
      tree.resolve (name :: done) rest

/-- What a path leads to. -/
def find (tree : FileTree) (path : String) : Except FileFault FileTree := do
  if !Path.isUsable path then throw .notFound
  let done ← tree.resolve [] (Path.names path)
  match ← tree.descend done.reverse with
  | file content => if Path.namesDirectory path then throw .notADirectory else return file content
  | directory entries => return directory entries

/-- The text of a file. -/
def readText (tree : FileTree) (path : String) : Except FileFault String := do
  match ← tree.find path with
  | directory _ => throw .isADirectory
  | file (.binary _) => throw .notText
  | file (.text value) => return value

/-- The content of a file, if there is one. -/
def content? (tree : FileTree) (path : String) : Option Content :=
  match tree.find path with
  | .ok (file content) => some content
  | _ => none

/-- Puts something in the place of an entry, or adds it. -/
def replaceEntry (name : String) (node : FileTree) :
    List (String × FileTree) → List (String × FileTree)
  | [] => [(name, node)]
  | entry :: rest =>
    if entry.1 = name then (name, node) :: rest else entry :: replaceEntry name node rest

/-- Puts a file at the end of a row of names. Directories that are missing are added, and files in
the way are replaced by directories. -/
def put (content : Content) : List String → FileTree → FileTree
  | [], _ => file content
  | name :: rest, directory entries =>
    directory (replaceEntry name (put content rest ((entries.lookup name).getD empty)) entries)
  | name :: rest, file _ => directory [(name, put content rest empty)]

/-- Adds an empty directory, unless there is one already, with the directories above it. -/
def putDirectory : List String → FileTree → FileTree
  | [], directory entries => directory entries
  | [], file _ => empty
  | name :: rest, directory entries =>
    directory (replaceEntry name (putDirectory rest ((entries.lookup name).getD empty)) entries)
  | name :: rest, file _ => directory [(name, putDirectory rest empty)]

/-- Writes a text to a file, which is created if its directory exists. -/
def writeText (tree : FileTree) (path : String) (value : String) : Except FileFault FileTree := do
  if !Path.isUsable path then throw .notFound
  match (Path.names path).reverse with
  | [] => throw .isADirectory
  | name :: above =>
    if name = ".." || name = "/" then throw .isADirectory
    let done ← tree.resolve [] above.reverse
    match ← tree.descend done.reverse with
    | file _ => throw .notADirectory
    | directory entries =>
      match entries.lookup name with
      | some (directory _) => throw .isADirectory
      | some (file _) => if Path.namesDirectory path then throw .notADirectory
      | none => if Path.namesDirectory path then throw .isADirectory
      return tree.put (.text value) (done.reverse ++ [name])

mutual

/-- All files with the names that lead to them. -/
def files : FileTree → List (List String × Content)
  | file content => [([], content)]
  | directory entries => filesIn entries

/-- All files of the entries of a directory. -/
def filesIn : List (String × FileTree) → List (List String × Content)
  | [] => []
  | (name, node) :: rest =>
    (node.files.map fun entry => (name :: entry.1, entry.2)) ++ filesIn rest

end

end FileTree

end ScopeScanner
