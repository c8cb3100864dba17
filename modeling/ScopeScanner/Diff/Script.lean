/-!
# Edit scripts

How one list of lines becomes another: a row of runs, each of lines that are kept, removed or added.
The kept and removed lines are the old list, the kept and added lines the new one.

A run of removals also notes a place in the new list, and a run of additions one in the old list:
where the run was when it was found. The note moves along when the run is moved past lines that are
kept, but not when it is moved past another change.
-/

namespace ScopeScanner.Diff

/-- Lines that are treated alike. -/
inductive Run where
  | keep (lines : List String)
  /-- Removals, and the place in the new list that is noted for them. -/
  | remove (lines : List String) (place : Nat)
  /-- Additions, and the place in the old list that is noted for them. -/
  | add (lines : List String) (place : Nat)
deriving DecidableEq, Repr

namespace Run

/-- The lines of the run in the old list. -/
def old : Run → List String
  | keep lines | remove lines _ => lines
  | add _ _ => []

/-- The lines of the run in the new list. -/
def new : Run → List String
  | keep lines | add lines _ => lines
  | remove _ _ => []

/-- Number of lines. -/
def size : Run → Nat
  | keep lines | remove lines _ | add lines _ => lines.length

end Run

/-- An edit script. -/
abbrev Script := List Run

namespace Script

/-- The list that a script starts from. -/
def old (script : Script) : List String :=
  script.flatMap Run.old

/-- The list that a script leads to. -/
def new (script : Script) : List String :=
  script.flatMap Run.new

end Script

/-- The lines that two lists have in common at their starts. -/
def commonPrefix : List String → List String → List String
  | a :: as, b :: bs => if a = b then a :: commonPrefix as bs else []
  | _, _ => []

/-- The lines that two lists have in common at their ends. -/
def commonSuffix (old new : List String) : List String :=
  (commonPrefix old.reverse new.reverse).reverse

/-- The script that keeps some lines, or nothing if there are none. -/
def keeping (lines : List String) : Script :=
  if lines.isEmpty then [] else [.keep lines]

end ScopeScanner.Diff
