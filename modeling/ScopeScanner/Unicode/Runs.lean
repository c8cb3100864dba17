/-!
# Tables of code points

Properties of characters are tabulated as runs of code points, written as texts. In a table of labels
each run is its length followed by its label, which holds no digit; together the runs cover all
code points. A table of members lists numbers separated by blanks, which say in turn how many code
points are no members and how many are. Both are looked up by binary search among the code points
where runs start.
-/

namespace ScopeScanner.Unicode

/-- The value of a decimal digit. -/
def digitValue (c : Char) : Nat :=
  c.toNat - '0'.toNat

/-- Reads runs with labels into pairs of a starting code point and a label. `length` and `label`
are those of the run being read, the label last character first. -/
def readLabelled : List Char → (start length : Nat) → (label : List Char) →
    Array (Nat × String) → Array (Nat × String)
  | [], start, _, label, runs =>
    if label.isEmpty then runs else runs.push (start, String.ofList label.reverse)
  | c :: rest, start, length, label, runs =>
    if c.isDigit then
      if label.isEmpty then readLabelled rest start (length * 10 + digitValue c) [] runs
      else
        readLabelled rest (start + length) (digitValue c) []
          (runs.push (start, String.ofList label.reverse))
    else readLabelled rest start length (c :: label) runs

/-- A table of labels: where each run starts, in ascending order, with its label. -/
def readRuns (text : List String) : Array (Nat × String) :=
  readLabelled (text.flatMap String.toList) 0 0 [] #[]

/-- The last entry of `table` between `low` and `high` that starts at or before `code`. The gap
between the two bounds halves in each of `fuel` steps. -/
def searchRun {α : Type} (table : Array (Nat × α)) (code : Nat) : (fuel low high : Nat) → Option α
  | 0, low, _ => (table[low]?).map (·.2)
  | fuel + 1, low, high =>
    if high ≤ low + 1 then (table[low]?).map (·.2)
    else
      let middle := (low + high) / 2
      match table[middle]? with
      | none => (table[low]?).map (·.2)
      | some (start, _) =>
        if start ≤ code then searchRun table code fuel middle high
        else searchRun table code fuel low middle

/-- The label of the run that a code point lies in. -/
def lookupRun {α : Type} (table : Array (Nat × α)) (code : Nat) : Option α :=
  searchRun table code 32 0 table.size

/-- The code points at which membership in a set changes, in ascending order. The first one starts
members. -/
structure Boundaries where
  changes : Array Nat
deriving DecidableEq, Repr

namespace Boundaries

/-- The number of entries from `low` on that are at most `code`, those before `low` included. The
gap between the two bounds halves in each of `fuel` steps. -/
def countUpTo (changes : Array Nat) (code : Nat) : (fuel low high : Nat) → Nat
  | 0, low, _ => low
  | fuel + 1, low, high =>
    if high ≤ low then low
    else
      let middle := (low + high) / 2
      match changes[middle]? with
      | none => low
      | some change =>
        if change ≤ code then countUpTo changes code fuel (middle + 1) high
        else countUpTo changes code fuel low middle

/-- Whether a character is a member: membership has changed an odd number of times up to it. -/
def contains (set : Boundaries) (c : Char) : Bool :=
  countUpTo set.changes c.toNat 32 0 set.changes.size % 2 = 1

end Boundaries

/-- Reads a table of members. `last` is the code point of the latest change and `length` the
number being read. -/
def readChanges : List Char → (last length : Nat) → Array Nat → Array Nat
  | [], last, length, changes => changes.push (last + length)
  | c :: rest, last, length, changes =>
    if c.isDigit then readChanges rest last (length * 10 + digitValue c) changes
    else readChanges rest (last + length) 0 (changes.push (last + length))

/-- A table of members. -/
def readBoundaries (text : List String) : Boundaries :=
  ⟨readChanges (" ".intercalate text).toList 0 0 #[]⟩

end ScopeScanner.Unicode
