import ScopeScanner.Regex.Machine
import ScopeScanner.Regex.Reader

/-!
# Compiled regular expressions

A regular expression is compiled to an automaton if it is plain, and to a program otherwise.
`Regex.search` looks for the leftmost match at or after an index; characters before that index stay
visible to assertions and lookbehind.
-/

namespace ScopeScanner

namespace Regex

/-- What runs a regular expression. -/
inductive Engine where
  | automaton (automaton : Automaton)
  /-- Needs a budget. -/
  | program (program : Program)
deriving DecidableEq, Repr

end Regex

/-- A regular expression ready for searching. -/
structure Regex where
  engine : Regex.Engine
  /-- Number of groups, the whole match not counted. -/
  groups : Nat
deriving DecidableEq, Repr

namespace Regex

/-- How deep a plain expression nests; the group for the whole match has no parentheses. -/
def Node.depthOfWhole : Node → Nat
  | group 0 body => body.depth 0
  | node => node.depth 0

/-- Compiles an expression in which group 0 stands for the whole match. A plain expression has the
groups that are left in it. -/
def ofExpression (expression : Expression) : Except Fault Regex := do
  if expression.node.isHard expression.referenced then
    let program ← Program.ofNode expression
    return { engine := .program program, groups := expression.groups }
  else
    let plain ← expression.node.toPlain
    if Node.maxPlainDepth < expression.node.depthOfWhole then throw .nestedTooDeep
    if !plain.takesAtMost Footprint.limit then throw .tooLarge
    return { engine := .automaton (.ofPlain plain), groups := plain.lastGroup }

/-- Reads and compiles a regular expression. -/
def compile (text : List Char) : Except Fault Regex := do
  ofExpression (← readExpression text).withWhole

/-- The span of a group of a finished walk. -/
def Walk.group? (walk : Walk) (group : Nat) : Option Span := do
  let start ← walk.marks.lookup (2 * group)
  let stop ← walk.marks.lookup (2 * group + 1)
  return ⟨start, stop⟩

/-- The span of the whole match of a finished run. The text that is left out of the match may have
been given a later start than its end. -/
def State.whole? (state : State) : Option Span :=
  (state.group? 0).map fun span => ⟨min span.start span.stop, span.stop⟩

/-- The leftmost match that starts at or after an index, as the spans of all groups in characters,
the whole match first. -/
def search (regex : Regex) (input : Array Char) (start budget : Nat) :
    Except Exhausted (Option (List (Option Span))) :=
  match regex.engine with
  | .automaton automaton =>
    .ok <| (automaton.search input start).map fun walk =>
      (List.range (regex.groups + 1)).map walk.group?
  | .program program =>
    (program.search input start budget).map fun state =>
      state.map fun state =>
        state.whole? :: (List.range regex.groups).map fun group => state.group? (group + 1)

end Regex

end ScopeScanner
