import ScopeScanner.Diff.Script

/-!
# Shortest edit scripts

A shortest script is found by divide and conquer. Lines that both lists have in common at their
starts and ends are kept. What is left is searched from both ends at once: after `d` removals and
additions the furthest reach on each diagonal is known, a diagonal being the number of lines taken
from the old list less those taken from the new one. Where the two searches meet, the lists are cut
in two.
-/

namespace ScopeScanner.Diff

/-- The furthest reach of a search on each diagonal. -/
structure Reach where
  cells : Array Nat
  /-- Place of the diagonal zero. -/
  origin : Nat

namespace Reach

/-- Nothing has been reached on `2 * radius + 1` diagonals. -/
def start (radius : Nat) : Reach where
  cells := Array.replicate (2 * radius + 1) 0
  origin := radius

/-- The number of old lines passed on a diagonal. -/
def get (reach : Reach) (diagonal : Int) : Nat :=
  reach.cells.getD (diagonal + reach.origin).toNat 0

/-- Notes how many old lines have been passed on a diagonal. -/
def set (reach : Reach) (diagonal : Int) (passed : Nat) : Reach :=
  { reach with cells := reach.cells.setIfInBounds (diagonal + reach.origin).toNat passed }

/-- Old and new lines passed on a diagonal by one removal or addition more, the `d`-th. -/
def step (reach : Reach) (d : Nat) (diagonal : Int) : Nat × Nat :=
  let x :=
    if diagonal = -d || (diagonal ≠ d && reach.get (diagonal - 1) < reach.get (diagonal + 1)) then
      reach.get (diagonal + 1)
    else reach.get (diagonal - 1) + 1
  (x, (x - diagonal).toNat)

end Reach

/-- The diagonals that `d` removals and additions can lead to, the highest first. -/
def diagonals (d : Nat) : List Int :=
  (List.range (d + 1)).map fun (i : Nat) => (d : Int) - 2 * (i : Int)

/-- A pair of lists that are searched. -/
structure Search where
  old : Array String
  new : Array String
  oldReversed : Array String
  newReversed : Array String

/-- The searches from both ends. -/
structure Fronts where
  forward : Reach
  backward : Reach

/-- Number of lines that two lists have in common from the given positions on. -/
def common (old new : Array String) : (fuel : Nat) → Nat → Nat → Nat
  | 0, _, _ => 0
  | fuel + 1, x, y =>
    match old[x]?, new[y]? with
    | some a, some b => if a = b then common old new fuel (x + 1) (y + 1) + 1 else 0
    | _, _ => 0

namespace Search

/-- Number of old lines less the number of new ones. -/
def delta (search : Search) : Int :=
  (search.old.size : Int) - search.new.size

/-- Whether the number of removals and additions is odd. -/
def isOdd (search : Search) : Bool :=
  search.delta % 2 ≠ 0

/-- Whether the searches have met on a diagonal. -/
def met (search : Search) (fronts : Fronts) (diagonal : Int) : Bool :=
  search.old.size ≤ fronts.forward.get diagonal + fronts.backward.get (search.delta - diagonal)

/-- Goes further from the start on a diagonal; stops with the place to cut at where the searches
meet. -/
def advance (search : Search) (d : Nat) (fronts : Fronts) (diagonal : Int) :
    Except (Nat × Nat) Fronts :=
  let (x, y) := fronts.forward.step d diagonal
  let passed := x + common search.old search.new search.old.size x y
  let fronts := { fronts with forward := fronts.forward.set diagonal passed }
  if search.isOdd && (diagonal - search.delta).natAbs + 1 ≤ d && search.met fronts diagonal then
    throw (x, y)
  else return fronts

/-- Goes further from the end on a diagonal; stops with the place to cut at where the searches
meet. -/
def retreat (search : Search) (d : Nat) (fronts : Fronts) (diagonal : Int) :
    Except (Nat × Nat) Fronts :=
  let (x, y) := fronts.backward.step d diagonal
  let count := common search.oldReversed search.newReversed search.old.size x y
  let fronts := { fronts with backward := fronts.backward.set diagonal (x + count) }
  if !search.isOdd && (diagonal - search.delta).natAbs ≤ d
      && search.met fronts (search.delta - diagonal) then
    throw (search.old.size - (x + count), search.new.size - (y + count))
  else return fronts

/-- Goes one removal or addition further from both ends. -/
def widen (search : Search) (fronts : Fronts) (d : Nat) : Except (Nat × Nat) Fronts := do
  let fronts ← (diagonals d).foldlM (search.advance d) fronts
  (diagonals d).foldlM (search.retreat d) fronts

/-- How many removals and additions have to be tried at most. -/
def radius (search : Search) : Nat :=
  (search.old.size + search.new.size + 1) / 2 + 1

/-- Where the two lists are cut. -/
def cut? (search : Search) : Option (Nat × Nat) :=
  let start : Fronts := {
    forward := .start (search.radius + 1), backward := .start (search.radius + 1) }
  match (List.range search.radius).foldlM search.widen start with
  | .error place => some place
  | .ok _ => none

end Search

/-- Where a pair of lists is cut. -/
def cut? (old new : List String) : Option (Nat × Nat) :=
  Search.cut? {
    old := old.toArray
    new := new.toArray
    oldReversed := old.reverse.toArray
    newReversed := new.reverse.toArray }

/-- A script for two lists, which are parts of longer ones and start there at the given places, as a
row of runs that are not yet joined. Each cut makes the lists shorter, so their length is enough
fuel. -/
def rawScript : (fuel : Nat) → (oldPlace newPlace : Nat) → (old new : List String) → Script
  | 0, oldPlace, newPlace, old, new => [.remove old newPlace, .add new oldPlace]
  | fuel + 1, oldPlace, newPlace, old, new =>
    let first := commonPrefix old new
    let old := old.drop first.length
    let new := new.drop first.length
    let oldPlace := oldPlace + first.length
    let newPlace := newPlace + first.length
    let last := commonSuffix old new
    let old := old.take (old.length - last.length)
    let new := new.take (new.length - last.length)
    let middle : Script := match old, new with
      | [], [] => []
      | old, [] => [.remove old newPlace]
      | [], new => [.add new oldPlace]
      | old, new =>
        match cut? old new with
        | some (x, y) =>
          rawScript fuel oldPlace newPlace (old.take x) (new.take y)
            ++ rawScript fuel (oldPlace + x) (newPlace + y) (old.drop x) (new.drop y)
        | none => [.remove old newPlace, .add new oldPlace]
    keeping first ++ middle ++ keeping last

end ScopeScanner.Diff
