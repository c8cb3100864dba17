import ScopeScanner.Regex.Plain

/-!
# Automata for plain expressions

A plain expression is run as a list of steps. A walk goes from step to step and through the text;
at a fork it takes the preferred way and leaves the other one waiting. A match is found when a walk
leaves the list at its end.

No fork is passed twice at the same position: what a walk can do from there has been tried before,
or is being tried. This bounds the work by the number of steps times the length of the text, and it
is also what ends a loop whose body matched the empty text.
-/

namespace ScopeScanner.Regex

/-- One step of an automaton. -/
inductive Step where
  /-- Moves over one character of a set. -/
  | consume (set : CharSet)
  | require (assertion : Assertion)
  /-- Notes the position under a number. -/
  | mark (slot : Nat)
  | fork (preferred other : Nat)
  | jump (target : Nat)
deriving DecidableEq, Repr

/-- A fork that prefers to go on when greedy and to leave otherwise. -/
def Step.choice (greedy : Bool) (onward away : Nat) : Step :=
  if greedy then fork onward away else fork away onward

namespace Plain

/-- The number of steps of an expression. -/
def stepCount : Plain → Nat
  | empty => 0
  | set _ | assertion _ => 1
  | seq first second => first.stepCount + second.stepCount
  | alt preferred other => preferred.stepCount + other.stepCount + 2
  | group _ body => body.stepCount + 2
  | repeated least (some most) _ body =>
    least * body.stepCount + (most - least) * (body.stepCount + 1)
  | repeated 0 none _ body => body.stepCount + 2
  | repeated (least + 1) none _ body => (least + 1) * body.stepCount + 1

/-- Several copies of a list of `size` steps, each placed behind the one before. -/
def copies (steps : (start : Nat) → List Step) (size count start : Nat) : List Step :=
  (List.range count).flatMap fun i => steps (start + i * size)

/-- The steps of an expression, the first of them at the address `start`. What follows the
expression comes right after them.

An optional loop whose body can match the empty text is entered by one fork and repeated by
another: otherwise the body could not be left again without having consumed something. -/
def steps : Plain → (start : Nat) → List Step
  | empty, _ => []
  | set s, _ => [.consume s]
  | assertion a, _ => [.require a]
  | seq first second, start => first.steps start ++ second.steps (start + first.stepCount)
  | alt preferred other, start =>
    let middle := start + 1 + preferred.stepCount
    .fork (start + 1) (middle + 1) :: preferred.steps (start + 1)
      ++ .jump (middle + 1 + other.stepCount) :: other.steps (middle + 1)
  | group number body, start =>
    .mark (2 * number) :: body.steps (start + 1) ++ [.mark (2 * number + 1)]
  | repeated least (some most) greedy body, start =>
    let middle := start + least * body.stepCount
    let stop := middle + (most - least) * (body.stepCount + 1)
    copies body.steps body.stepCount least start
      ++ copies (fun start => .choice greedy (start + 1) stop :: body.steps (start + 1))
        (body.stepCount + 1) (most - least) middle
  | repeated 0 none greedy body, start =>
    let stop := start + body.stepCount + 2
    let again :=
      if body.minWidth = 0 then .choice greedy (start + 1) stop else .jump start
    .choice greedy (start + 1) stop :: body.steps (start + 1) ++ [again]
  | repeated (least + 1) none greedy body, start =>
    let last := start + least * body.stepCount
    copies body.steps body.stepCount (least + 1) start
      ++ [.choice greedy last (last + body.stepCount + 1)]

end Plain

/-- The steps for a plain expression. -/
structure Automaton where
  steps : Array Step
deriving DecidableEq, Repr

/-- A walk through an automaton: the next step, the position in the text and the positions noted so
far, the latest first. -/
structure Walk where
  step : Nat := 0
  pos : Nat
  marks : List (Nat × Nat) := []
deriving DecidableEq, Repr

/-- Which forks have been passed where: for each distance from `origin` a set of bits, one for each
step. -/
structure Visited where
  origin : Nat
  rows : Array Nat := #[]

namespace Visited

/-- How far a position lies from the origin, on either side of it. -/
def distance (visited : Visited) (pos : Nat) : Nat :=
  (pos - visited.origin) + (visited.origin - pos)

/-- Whether a step has been passed at a position. -/
def has (visited : Visited) (step pos : Nat) : Bool :=
  (visited.rows[visited.distance pos]?.getD 0).testBit step

/-- Notes that a step has been passed at a position. -/
def add (visited : Visited) (step pos : Nat) : Visited :=
  let row := visited.distance pos
  let rows := visited.rows ++ Array.replicate (row + 1 - visited.rows.size) 0
  { visited with rows := rows.setIfInBounds row (rows.getD row 0 ||| 1 <<< step) }

end Visited

namespace Automaton

/-- The automaton of an expression. -/
def ofPlain (plain : Plain) : Automaton :=
  ⟨(plain.steps 0).toArray⟩

/-- The position past the next character in a direction, if the character belongs to the set and
the position does not lie beyond `limit`. -/
def pass? (input : Array Char) (limit : Nat) (direction : Direction) (set : CharSet) (pos : Nat) :
    Option Nat :=
  match direction with
  | .ahead =>
    if limit ≤ pos then none
    else match input[pos]? with
      | some c => if set.contains c then some (pos + 1) else none
      | none => none
  | .behind =>
    match pos with
    | 0 => none
    | before + 1 =>
      match input[before]? with
      | some c => if set.contains c then some before else none
      | none => none

/-- Follows a walk, and then the waiting ones, until one of them ends in a match. -/
def follow (automaton : Automaton) (input : Array Char) (limit : Nat) (direction : Direction) :
    (fuel : Nat) → List Walk → Visited → Option Walk × Visited
  | 0, _, visited => (none, visited)
  | _ + 1, [], visited => (none, visited)
  | fuel + 1, walk :: waiting, visited =>
    match automaton.steps[walk.step]? with
    | none => (some walk, visited)
    | some (.consume set) =>
      match pass? input limit direction set walk.pos with
      | some pos =>
        follow automaton input limit direction fuel
          ({ walk with step := walk.step + 1, pos } :: waiting) visited
      | none => follow automaton input limit direction fuel waiting visited
    | some (.require assertion) =>
      let walks := if assertion.holds input walk.pos then
        { walk with step := walk.step + 1 } :: waiting else waiting
      follow automaton input limit direction fuel walks visited
    | some (.mark slot) =>
      let walk := { walk with step := walk.step + 1, marks := (slot, walk.pos) :: walk.marks }
      follow automaton input limit direction fuel (walk :: waiting) visited
    | some (.jump target) =>
      follow automaton input limit direction fuel ({ walk with step := target } :: waiting) visited
    | some (.fork preferred other) =>
      if visited.has walk.step walk.pos then
        follow automaton input limit direction fuel waiting visited
      else
        follow automaton input limit direction fuel
          ({ walk with step := preferred } :: { walk with step := other } :: waiting)
          (visited.add walk.step walk.pos)

/-- More than the number of steps that can be followed before every fork has been passed at every
position: between two forks a walk takes no step twice. -/
def enough (automaton : Automaton) (input : Array Char) : Nat :=
  2 * (automaton.steps.size + 2) * (automaton.steps.size + 2) * (input.size + 2)

/-- The preferred match that starts at a position and extends in a direction. -/
def matchAt (automaton : Automaton) (input : Array Char) (limit : Nat) (direction : Direction)
    (pos : Nat) : Option Walk :=
  (automaton.follow input limit direction (automaton.enough input) [{ pos }] ⟨pos, #[]⟩).1

/-- Tries one start after the other; `left` counts those still to be tried. Forks that have been
passed in vain from one start are not passed again from another. -/
def searchFrom (automaton : Automaton) (input : Array Char) :
    (left start : Nat) → Visited → Option Walk
  | 0, _, _ => none
  | left + 1, start, visited =>
    match automaton.follow input input.size .ahead (automaton.enough input)
      [{ pos := start }] visited with
    | (some walk, _) => some walk
    | (none, visited) => searchFrom automaton input left (start + 1) visited

/-- The leftmost match that starts at or after a position. -/
def search (automaton : Automaton) (input : Array Char) (start : Nat) : Option Walk :=
  automaton.searchFrom input (input.size + 1 - start) start ⟨start, #[]⟩

end Automaton

end ScopeScanner.Regex
