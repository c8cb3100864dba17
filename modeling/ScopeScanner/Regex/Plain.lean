import ScopeScanner.Regex.Assertion
import ScopeScanner.Regex.CharSet

/-!
# Plain expressions

A regular expression without lookaround, atomic groups, references to groups and word boundaries.
Whether what follows a point of a plain expression can still match depends on the position in the
text alone, so it can be run without trying anything twice at the same place.

`Plain.repeat` is the way to build a repetition: it drops iterations that cannot make a difference.
A repetition of an expression that only matches the empty text needs at most one of them, and one
without iterations is empty, groups included.
-/

namespace ScopeScanner.Regex

/-- A regular expression that can be run without trying a path twice. -/
inductive Plain where
  | empty
  /-- One character of a set. -/
  | set (set : CharSet)
  | assertion (assertion : Assertion)
  | seq (first second : Plain)
  | alt (preferred other : Plain)
  | group (number : Nat) (body : Plain)
  /-- At least `least` and, if given, at most `most` iterations; `greedy` prefers more. -/
  | repeated (least : Nat) (most : Option Nat) (greedy : Bool) (body : Plain)
deriving DecidableEq, Repr

namespace Plain

/-- One expression after the other. -/
def ofItems : List Plain → Plain
  | [] => empty
  | [item] => item
  | item :: items => seq item (ofItems items)

/-- One of several expressions, the earlier ones preferred. -/
def ofBranches : List Plain → Plain
  | [] => empty
  | [branch] => branch
  | branch :: branches => alt branch (ofBranches branches)

/-- The least number of characters a match spans. -/
def minWidth : Plain → Nat
  | empty | assertion _ => 0
  | set _ => 1
  | seq first second => first.minWidth + second.minWidth
  | alt preferred other => min preferred.minWidth other.minWidth
  | group _ body => body.minWidth
  | repeated least _ _ body => least * body.minWidth

/-- Whether no match spans a character. -/
def isWidthless : Plain → Bool
  | empty | assertion _ => true
  | set _ => false
  | seq first second => first.isWidthless && second.isWidthless
  | alt preferred other => preferred.isWidthless && other.isWidthless
  | group _ body => body.isWidthless
  | repeated _ _ _ body => body.isWidthless

/-- A repetition with the iterations that make no difference left out. -/
def «repeat» (least : Nat) (most : Option Nat) (greedy : Bool) (body : Plain) : Plain :=
  let (least, most) :=
    if body.isWidthless then (min least 1, some (min (most.getD 1) 1)) else (least, most)
  match least, most with
  | 0, some 0 => empty
  | 1, some 1 => body
  | _, _ => repeated least most greedy body

/-- The expression for the same texts read from their ends. -/
def reversed : Plain → Plain
  | seq first second => seq second.reversed first.reversed
  | alt preferred other => alt preferred.reversed other.reversed
  | group number body => group number body.reversed
  | repeated least most greedy body => repeated least most greedy body.reversed
  | leaf => leaf

/-- The highest number of a group in the expression, 0 without groups. -/
def lastGroup : Plain → Nat
  | empty | assertion _ | set _ => 0
  | seq first second => max first.lastGroup second.lastGroup
  | alt preferred other => max preferred.lastGroup other.lastGroup
  | group number body => max number body.lastGroup
  | repeated _ _ _ body => body.lastGroup

end Plain

end ScopeScanner.Regex
