/-!
# Spans

A stretch of a text between two positions.
-/

namespace ScopeScanner

/-- The positions from `start` up to, but not including, `stop`. -/
structure Span where
  start : Nat
  stop : Nat
deriving DecidableEq, Repr, Inhabited

namespace Span

/-- Whether the span holds no position. -/
def isEmpty (span : Span) : Bool :=
  span.stop ≤ span.start

end Span

end ScopeScanner
