import ScopeScanner.Unicode.Derived

/-!
# Assertions

Conditions on a position between two characters that consume nothing. They look at the whole input,
also at what lies before the start of a search.
-/

namespace ScopeScanner.Regex

/-- The side of a position that a match extends to or that a lookaround inspects. -/
inductive Direction where
  | ahead
  | behind
deriving DecidableEq, Repr

/-- A condition on a position. -/
inductive Assertion where
  | textStart
  | textEnd
  /-- At the end of the text, or before the line feeds that end it. -/
  | textEndBeforeFeeds
  | lineStart
  | lineEnd
  | wordBoundary
  | notWordBoundary
  | wordStart
  | wordEnd
  /-- No word character in front. -/
  | wordStartHalf
  /-- No word character behind. -/
  | wordEndHalf
deriving DecidableEq, Repr

namespace Assertion

/-- Whether the character before a position, and the one at it, are word characters. -/
def wordsAround (input : Array Char) (pos : Nat) : Bool × Bool :=
  let before := match pos with
    | 0 => false
    | p + 1 => (input[p]?).any Unicode.isWord
  (before, (input[pos]?).any Unicode.isWord)

/-- Whether an assertion holds at a position. -/
def holds (input : Array Char) (pos : Nat) : Assertion → Bool
  | textStart => pos = 0
  | textEnd => input.size ≤ pos
  | textEndBeforeFeeds => (input.extract pos input.size).all (· = '\n')
  | lineStart =>
    match pos with
    | 0 => true
    | p + 1 => input[p]? = some '\n'
  | lineEnd => input.size ≤ pos || input[pos]? = some '\n'
  | wordBoundary => let (before, after) := wordsAround input pos; before != after
  | notWordBoundary => let (before, after) := wordsAround input pos; before == after
  | wordStart => let (before, after) := wordsAround input pos; !before && after
  | wordEnd => let (before, after) := wordsAround input pos; before && !after
  | wordStartHalf => !(wordsAround input pos).1
  | wordEndHalf => !(wordsAround input pos).2

/-- Whether the assertion is about the text or its lines, and not about words or trailing line
feeds. Only such an assertion may stand in a plain expression. -/
def isPlain : Assertion → Bool
  | textStart | textEnd | lineStart | lineEnd => true
  | _ => false

end Assertion

end ScopeScanner.Regex
