import ScopeScanner.Files.Tree

/-!
# Finding files

A search starts at a directory and looks into all directories that it meets. It knows of them what the
system tells: which entries a directory has, in whatever order, and which of them are directories. It does
not ask what the others are. Names may be bytes that are no text, and reading a directory may fail at any
depth, which ends the search.
-/

namespace ScopeScanner

/-- What an entry is that the system does not tell to be a directory. -/
inductive LeafKind where
  | file
  /-- A pipe, a socket or a device. -/
  | special
  /-- The system cannot tell what it is. -/
  | untold
deriving DecidableEq, Repr

/-- What the system tells of the files below a place, with names of a type. -/
inductive Listing (ν : Type) where
  | leaf (kind : LeafKind)
  /-- A directory with its entries, and the fault with which they break off, if they do. -/
  | directory (entries : List (ν × Listing ν)) (fault? : Option FileFault)

namespace Listing

variable {ν : Type}

mutual

/-- Number of directories in a listing. -/
def directories : Listing ν → Nat
  | leaf _ => 0
  | directory entries _ => directoriesIn entries + 1

/-- Number of directories below a directory with these entries. -/
def directoriesIn : List (ν × Listing ν) → Nat
  | [] => 0
  | (_, node) :: rest => node.directories + directoriesIn rest

end

/-- A directory that a search has met and not looked into. -/
structure Place (ν : Type) where
  /-- The names that lead to it. -/
  row : List ν
  entries : List (ν × Listing ν)
  fault? : Option FileFault

/-- A search for files on its way. -/
structure Search (ν : Type) where
  /-- Directories that have not been looked into, the next one first. -/
  pending : List (Place ν)
  /-- Rows of names that lead to the files found so far, the latest first. -/
  found : List (List ν) := []

namespace Search

variable (wanted : ν → Bool)

/-- Takes note of an entry of the directory at a row of names. A directory is to be looked into next,
and anything else is found if its name is wanted. -/
def note (row : List ν) (search : Search ν) : ν × Listing ν → Search ν
  | (name, directory entries fault?) =>
    { search with pending := ⟨row ++ [name], entries, fault?⟩ :: search.pending }
  | (name, leaf _) =>
    if wanted name then { search with found := (row ++ [name]) :: search.found } else search

/-- Looks into the directory at a row of names. -/
def look (row : List ν) (entries : List (ν × Listing ν)) (search : Search ν) : Search ν :=
  entries.foldl (note wanted row) search

/-- Number of directories that are left, those that will be met included. -/
def left (search : Search ν) : Nat :=
  search.pending.foldr (fun place count => count + (directoriesIn place.entries + 1)) 0

/-- Looking into a directory adds the directories below it to those that are left. -/
theorem left_look (row : List ν) (entries : List (ν × Listing ν)) (search : Search ν) :
    (look wanted row entries search).left = search.left + directoriesIn entries := by
  induction entries generalizing search with
  | nil => rfl
  | cons entry rest ih =>
    obtain ⟨name, node⟩ := entry
    have hnote : (note wanted row search (name, node)).left = search.left + node.directories := by
      cases node with
      | leaf kind =>
        rw [note, directories]
        split <;> rfl
      | directory inside fault? =>
        rw [note, directories]
        rfl
    show (look wanted row rest (note wanted row search (name, node))).left = _
    rw [ih, hnote, directoriesIn, Nat.add_assoc]

/-- Looks into the directory that was met last, if one is left. It has to list all its entries. -/
def step (search : Search ν) : Option (Except FileFault (Search ν)) :=
  match search.pending with
  | [] => none
  | place :: rest =>
    match place.fault? with
    | some fault => some (.error fault)
    | none => some (.ok (look wanted place.row place.entries { search with pending := rest }))

/-- One directory less is left after each step. -/
theorem left_of_step {search next : Search ν} (h : search.step wanted = some (.ok next)) :
    next.left + 1 = search.left := by
  rw [step] at h
  split at h
  · cases h
  · next place rest hpending =>
    split at h
    · cases h
    · obtain rfl := Except.ok.inj (Option.some.inj h)
      rw [left_look, left, left, hpending, List.foldr_cons, Nat.add_assoc]

-- `h` is used by `decreasing_by` only.
set_option linter.unusedVariables false in
/-- The rows found once no directory is left. -/
def run (search : Search ν) : Except FileFault (List (List ν)) :=
  match h : search.step wanted with
  | none => .ok search.found
  | some (.error fault) => .error fault
  | some (.ok next) => run next
termination_by search.left
decreasing_by
  have := left_of_step wanted h
  omega

end Search

/-- Whether a name is a text that ends in a suffix. -/
def endsIn (text? : ν → Option String) (suffix : String) (name : ν) : Bool :=
  (text? name).any fun text => suffix.toList.isSuffixOf text.toList

section Order

variable [DecidableEq ν] [LT ν] [DecidableLT ν]

/-- Whether a row of names does not come after another: it has the smaller name where they first
differ, or ends first. -/
def precedes : (a b : List ν) → Bool
  | [], _ => true
  | _ :: _, [] => false
  | x :: xs, y :: ys => if x = y then precedes xs ys else decide (x < y)

/-- What is found below a directory: all that is no directory and has a name that ends in the suffix, as
rows of names in their order. -/
def discover (text? : ν → Option String) (suffix : String) :
    Listing ν → Except FileFault (List (List ν))
  | leaf _ => throw .notADirectory
  | directory entries fault? => do
    let search : Search ν := { pending := [⟨[], entries, fault?⟩] }
    return (← search.run (endsIn text? suffix)).mergeSort precedes

end Order

end Listing

namespace FileTree

mutual

/-- What the system tells of the files at a path. It cannot tell what a path leads to that is too long. -/
def listing (path : String) : FileTree → Listing String
  | file _ => .leaf (if Path.isTooLong path then .untold else .file)
  | directory entries =>
    if Path.isTooLong path then .leaf .untold else .directory (listingIn path entries) none

/-- What the system tells of the entries of the directory at a path. -/
def listingIn (path : String) : List (String × FileTree) → List (String × Listing String)
  | [] => []
  | (name, node) :: rest => (name, node.listing (Path.join path name)) :: listingIn path rest

end

/-- The files below a directory whose names end in a suffix, as rows of names in their order. -/
def discover (tree : FileTree) (path suffix : String) : Except FileFault (List (List String)) := do
  ((← tree.find path).listing path).discover some suffix

end FileTree

end ScopeScanner
