import ScopeScanner.Pattern.Escaping
import ScopeScanner.Pattern.Groups
import ScopeScanner.Regex.Search
import ScopeScanner.Text.Quoted

/-!
# Patterns

A pattern is a regular expression of a grammar. Besides what regular expressions offer it may hold
the anchor `\G`, which stands for the position where the match that opened the enclosing region
ended. A pattern with an anchor is compiled twice: with `\G` left out, for a search that starts at
the anchor, and with `\G` replaced by a character that does not occur in text, for every other
search.

In all patterns `^` and `$` also hold around line feeds.
-/

namespace ScopeScanner

/-- A pattern that does not compile. -/
structure PatternError where
  source : String
deriving DecidableEq, Repr

/-- A compiled pattern of a grammar. -/
structure Pattern where
  source : String
  /-- Used when the search does not start at the anchor. -/
  detached : Regex
  /-- Used when the search starts at the anchor; present if the source holds an anchor. -/
  attached : Option Regex
  /-- How often a search may take a choice back. -/
  budget : Nat
deriving DecidableEq, Repr

namespace Pattern

/-- Switches on the flag under which `^` and `$` hold around line feeds. -/
def multilineMark : List Char := ['(', '?', 'm', ')']

/-- What stands for the anchor in a search that does not start at it. -/
def neverMark : List Char := ['\\', 'x', '\x7b', 'F', 'F', 'F', 'F', '\x7d']

/-- The source with every anchor replaced. -/
def replaceAnchor (mark : List Char) (source : List Char) : List Char :=
  Escaping.substitute (fun c => if c = 'G' then some mark else none) source

/-- Whether a source holds an anchor. -/
def sourceHasAnchor (source : List Char) : Bool :=
  Escaping.any (· = 'G') source

/-- Compiles a source in which anchors have been replaced. -/
def compileRegex (source : List Char) : Except Regex.Fault Regex :=
  Regex.compile (multilineMark ++ source)

/-- Compiles a pattern. -/
def compile (source : String) (budget : Nat) : Except PatternError Pattern :=
  let chars := source.toList
  match compileRegex (replaceAnchor neverMark chars) with
  | .error _ => .error ⟨source⟩
  | .ok detached =>
    if sourceHasAnchor chars then
      match compileRegex (replaceAnchor [] chars) with
      | .error _ => .error ⟨source⟩
      | .ok attached => .ok { source, detached, attached := some attached, budget }
    else .ok { source, detached, attached := none, budget }

/-- Whether the pattern holds an anchor. -/
def hasAnchor (pattern : Pattern) : Bool :=
  pattern.attached.isSome

/-- The leftmost match of one of the two expressions, from a character of the line. -/
def searchAt (pattern : Pattern) (regex : Regex) (line : Line) (start : Nat) :
    Except Regex.Exhausted (Option Groups) :=
  (regex.search line.chars start pattern.budget).map (·.map (Groups.ofIndices line))

/-- The leftmost match at or after the byte offset `start`. With `atAnchor` the anchor holds at
`start` and nowhere else: the expression without anchors counts only if it matches right there, and
otherwise the search goes on one character later with anchors that fail. -/
def findAt (pattern : Pattern) (line : Line) (start : Nat) (atAnchor : Bool) :
    Except Regex.Exhausted (Option Groups) :=
  let first := line.index start
  match if atAnchor then pattern.attached else none with
  | none => pattern.searchAt pattern.detached line first
  | some attached => do
    match ← pattern.searchAt attached line first with
    | some groups =>
      if groups.whole.start = start then return some groups else later first
    | none => later first
where
  /-- The search from the next character on, none at the end of the line. -/
  later (first : Nat) : Except Regex.Exhausted (Option Groups) :=
    if first < line.chars.size then pattern.searchAt pattern.detached line (first + 1)
    else .ok none

/-- The pattern for reports. -/
def describe (pattern : Pattern) : String :=
  "Pattern(" ++ Text.quoted pattern.source ++ ")"

end Pattern

end ScopeScanner
