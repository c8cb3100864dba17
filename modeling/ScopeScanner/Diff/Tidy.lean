import ScopeScanner.Diff.Shortest

/-!
# Tidying edit scripts

A shortest script may scatter its changes more than needed. Removals and additions that touch are
joined, an addition is moved as far up as lines equal to its own allow, so that it may join another
change there, and then as far down as possible. Removals move only past additions.

A script is tidied run by run: `before` holds the runs in front of the present one, the nearest
first, and `after` those behind it. Moving up uses up what is in front, moving down what is behind.
-/

namespace ScopeScanner.Diff

/-- A run on its way through a script. -/
structure Place where
  before : Script
  run : Run
  after : Script

/-- Number of runs and lines in a script, the measure by which moving ends. -/
def extent : Script → Nat
  | [] => 0
  | run :: rest => run.size + 1 + extent rest

/-- Puts lines that are kept in front of a script. -/
def prependKept (lines : List String) : Script → Script
  | .keep more :: rest => .keep (lines ++ more) :: rest
  | script => .keep lines :: script

/-- Puts lines that are kept behind a script that is given last run first. -/
def appendKept (lines : List String) : Script → Script
  | .keep more :: rest => .keep (more ++ lines) :: rest
  | script => .keep lines :: script

theorem commonPrefix_length_le (a b : List String) : (commonPrefix a b).length ≤ a.length := by
  induction a generalizing b with
  | nil => simp [commonPrefix]
  | cons x xs ih =>
    cases b with
    | nil => simp [commonPrefix]
    | cons y ys =>
      by_cases h : x = y
      · simpa [commonPrefix, h] using ih ys
      · simp [commonPrefix, h]

theorem commonSuffix_length_le (a b : List String) : (commonSuffix a b).length ≤ a.length := by
  simpa [commonSuffix] using commonPrefix_length_le a.reverse b.reverse

theorem extent_keeping_le (lines : List String) : extent (keeping lines) ≤ lines.length + 1 := by
  unfold keeping
  split <;> simp [extent, Run.size]

theorem extent_cons (run : Run) (rest : Script) :
    extent (run :: rest) = run.size + 1 + extent rest := rfl

theorem extent_append (a b : Script) : extent (a ++ b) = extent a + extent b := by
  induction a with
  | nil => simp [extent]
  | cons run rest ih => simp [extent_cons, ih, Nat.add_assoc]

/-- Moves a run up. Runs that are joined keep the note of the first one. -/
def moveUp (place : Place) : Place :=
  match place with
  | ⟨[], _, _⟩ => place
  | ⟨.keep lines :: before, .add added spot, after⟩ =>
    let shared := commonSuffix lines added
    if h : shared = [] then place
    else
      let count := shared.length
      have : 0 < (commonSuffix lines added).length := List.length_pos_iff.2 h
      have := commonSuffix_length_le lines added
      moveUp {
        before := keeping (lines.take (lines.length - count)) ++ before
        run := .add (shared ++ added.take (added.length - count)) (spot - count)
        after := prependKept shared after }
  | ⟨.remove removed spot :: before, .add added spot', after⟩ =>
    moveUp ⟨before, .add added spot', .remove removed spot :: after⟩
  | ⟨.add added spot :: before, .remove removed spot', after⟩ =>
    moveUp ⟨before, .remove removed spot', .add added spot :: after⟩
  | ⟨.add first spot :: before, .add second _, after⟩ =>
    moveUp ⟨before, .add (first ++ second) spot, after⟩
  | ⟨.remove first spot :: before, .remove second _, after⟩ =>
    moveUp ⟨before, .remove (first ++ second) spot, after⟩
  | place => place
termination_by extent place.before
decreasing_by
  · have h1 := extent_keeping_le (lines.take (lines.length - (commonSuffix lines added).length))
    rw [List.length_take] at h1
    simp only [extent_append, extent_cons, Run.size]
    omega
  all_goals simp only [extent_cons]; omega

/-- Moves a run down. Runs that are joined keep the note of the first one. -/
def moveDown (place : Place) : Place :=
  match place with
  | ⟨_, _, []⟩ => place
  | ⟨before, .add added spot, .keep lines :: after⟩ =>
    let shared := commonPrefix lines added
    if h : shared = [] then place
    else
      let count := shared.length
      have : 0 < (commonPrefix lines added).length := List.length_pos_iff.2 h
      have := commonPrefix_length_le lines added
      moveDown {
        before := appendKept shared before
        run := .add (added.drop count ++ shared) (spot + count)
        after := keeping (lines.drop count) ++ after }
  | ⟨before, .add added spot, .remove removed spot' :: after⟩ =>
    moveDown ⟨.remove removed spot' :: before, .add added spot, after⟩
  | ⟨before, .remove removed spot, .add added spot' :: after⟩ =>
    moveDown ⟨.add added spot' :: before, .remove removed spot, after⟩
  | ⟨before, .add first spot, .add second _ :: after⟩ =>
    moveDown ⟨before, .add (first ++ second) spot, after⟩
  | ⟨before, .remove first spot, .remove second _ :: after⟩ =>
    moveDown ⟨before, .remove (first ++ second) spot, after⟩
  | place => place
termination_by extent place.after
decreasing_by
  · have h1 := extent_keeping_le (lines.drop (commonPrefix lines added).length)
    rw [List.length_drop] at h1
    simp only [extent_append, extent_cons, Run.size]
    omega
  all_goals simp only [extent_cons]; omega

/-- Tidies the runs of one kind that are left, after those in `before`, which come last run first.
Every run is passed at most once, so the number of runs and lines is enough fuel. -/
def tidyRuns (isMoved : Run → Bool) : (fuel : Nat) → (before after : Script) → Script
  | 0, before, after => before.reverse ++ after
  | _ + 1, before, [] => before.reverse
  | fuel + 1, before, run :: after =>
    if isMoved run then
      let place := moveDown (moveUp ⟨before, run, after⟩)
      tidyRuns isMoved fuel (place.run :: place.before) place.after
    else tidyRuns isMoved fuel (run :: before) after

def Run.isRemoval : Run → Bool
  | remove _ _ => true
  | _ => false

def Run.isAddition : Run → Bool
  | add _ _ => true
  | _ => false

/-- Tidies a script, first its removals and then its additions. -/
def tidy (script : Script) : Script :=
  let fuel (script : Script) := 2 * extent script + 1
  let script := tidyRuns Run.isRemoval (fuel script) [] script
  tidyRuns Run.isAddition (fuel script) [] script

/-- A tidy script for two lists. -/
def script (old new : List String) : Script :=
  tidy (rawScript (old.length + new.length + 1) 0 0 old new)

end ScopeScanner.Diff
