import ScopeScanner.Text.Line
import ScopeScanner.Text.Span

/-!
# The groups of a match

The spans of all groups of one match in bytes of the line, the whole match first.
-/

namespace ScopeScanner

/-- Spans of the groups of a match; a group that took no part has none. -/
structure Groups where
  spans : List (Option Span)
deriving DecidableEq, Repr

namespace Groups

/-- The span of a group. -/
def get? (groups : Groups) (number : Nat) : Option Span :=
  groups.spans[number]?.join

/-- The span of the whole match. -/
def whole (groups : Groups) : Span :=
  (groups.get? 0).getD ⟨0, 0⟩

/-- The texts of the groups in the line they were found in. -/
def texts (groups : Groups) (line : Line) : List (Option (List Char)) :=
  groups.spans.map fun span => span.map fun span => line.slice span.start span.stop

/-- The groups of a match given in characters of a line. -/
def ofIndices (line : Line) (spans : List (Option Span)) : Groups where
  spans := spans.map fun span => span.map fun span => ⟨line.offset span.start, line.offset span.stop⟩

end Groups

end ScopeScanner
