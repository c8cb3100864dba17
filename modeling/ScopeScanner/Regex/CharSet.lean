import ScopeScanner.Unicode.CaseFold
import ScopeScanner.Unicode.Property

/-!
# Sets of characters

What a pattern may accept at one position: single characters, ranges, named properties and their
combinations. A set read under the case-insensitive flag has its leaves wrapped in `folded`; the
combinations then need no wrapping of their own, because union, intersection, difference and
complement of sets closed under case folding are closed again.
-/

namespace ScopeScanner.Regex

open ScopeScanner

/-- A description of a set of characters. -/
inductive CharSet where
  | nothing
  | single (c : Char)
  /-- All characters between two ends, both included. -/
  | range (low high : Char)
  | property (property : Unicode.Property)
  | word
  | decimal
  | blank
  | complement (set : CharSet)
  | union (left right : CharSet)
  | intersection (left right : CharSet)
  | difference (left right : CharSet)
  | symmetricDifference (left right : CharSet)
  /-- The characters equal up to case to a character of the set. -/
  | folded (set : CharSet)
deriving DecidableEq, Repr

namespace CharSet

/-- Whether a character belongs to the set. -/
def contains : CharSet → Char → Bool
  | nothing, _ => false
  | single d, c => c = d
  | range low high, c => low ≤ c && c ≤ high
  | property p, c => p.holds c
  | word, c => Unicode.isWord c
  | decimal, c => Unicode.isDecimal c
  | blank, c => Unicode.isBlank c
  | complement set, c => !set.contains c
  | union left right, c => left.contains c || right.contains c
  | intersection left right, c => left.contains c && right.contains c
  | difference left right, c => left.contains c && !right.contains c
  | symmetricDifference left right, c => left.contains c != right.contains c
  | folded set, c => set.contains c || (Unicode.orbit c).any set.contains

/-- A leaf of a set, closed under case folding when `ignoreCase` is set. -/
def leaf (ignoreCase : Bool) (set : CharSet) : CharSet :=
  if ignoreCase then folded set else set

/-- The complement if asked for, else the set itself. -/
def negateIf (negated : Bool) (set : CharSet) : CharSet :=
  if negated then complement set else set

/-- The union of several sets. -/
def ofUnion (sets : List CharSet) : CharSet :=
  match sets with
  | [] => nothing
  | [set] => set
  | set :: rest => union set (ofUnion rest)

/-- Any character, line feeds included or not. -/
def anyChar (lineFeed : Bool) : CharSet :=
  if lineFeed then property .any else complement (single '\n')

/-- Hexadecimal digits. -/
def hexDigit : CharSet :=
  union (range '0' '9') (union (range 'a' 'f') (range 'A' 'F'))

/-- The ASCII classes that can be named inside brackets, as in `[[:alpha:]]`. -/
def asciiClass? : String → Option CharSet
  | "alnum" => some (ofUnion [range '0' '9', range 'A' 'Z', range 'a' 'z'])
  | "alpha" => some (ofUnion [range 'A' 'Z', range 'a' 'z'])
  | "ascii" => some (range '\x00' '\x7F')
  | "blank" => some (ofUnion [single '\t', single ' '])
  | "cntrl" => some (ofUnion [range '\x00' '\x1F', single '\x7F'])
  | "digit" => some (range '0' '9')
  | "graph" => some (range '!' '~')
  | "lower" => some (range 'a' 'z')
  | "print" => some (range ' ' '~')
  | "punct" => some (ofUnion [range '!' '/', range ':' '@', range '[' '\x60', range '\x7b' '~'])
  | "space" => some (ofUnion [range '\t' '\r', single ' '])
  | "upper" => some (range 'A' 'Z')
  | "word" => some (ofUnion [range '0' '9', range 'A' 'Z', single '_', range 'a' 'z'])
  | "xdigit" => some hexDigit
  | _ => none

end CharSet

end ScopeScanner.Regex
