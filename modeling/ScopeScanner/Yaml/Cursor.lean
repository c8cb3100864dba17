/-!
# Positions in YAML texts

YAML is read character by character, and what a character means depends on its line and column. A
cursor holds the text that is left and where it starts.
-/

namespace ScopeScanner.Yaml

/-- A position in a text. -/
structure Cursor where
  rest : List Char
  /-- Number of characters in front of the position. -/
  index : Nat := 0
  line : Nat := 0
  column : Nat := 0

/-- Whether a character separates words. -/
def isBlank (c : Char) : Bool :=
  c = ' ' || c = '\t'

/-- Whether a character ends a line. -/
def isBreak (c : Char) : Bool :=
  c = '\n' || c = '\r' || c = '\u0085' || c = '\u2028' || c = '\u2029'

/-- Whether a text starts with a blank, a line end, or is at its end. -/
def startsBlank (text : List Char) : Bool :=
  text.head?.all fun c => isBlank c || isBreak c

/-- Whether a character may be part of the name of an anchor or a tag handle. -/
def isNameChar (c : Char) : Bool :=
  c.isAlphanum || c = '_' || c = '-'

/-- Whether a character may occur in a text at all. -/
def isPrintable (c : Char) : Bool :=
  c = '\t' || c = '\n' || c = '\r' || (' ' ≤ c && c ≤ '~') || c = '\u0085' ||
    ('\u00A0' ≤ c && c ≤ '\uFFFD') || 0x10000 ≤ c.toNat

namespace Cursor

/-- The next character. -/
def peek? (cursor : Cursor) : Option Char :=
  cursor.rest.head?

/-- Whether the next character is `c`. -/
def sees (cursor : Cursor) (c : Char) : Bool :=
  cursor.peek? = some c

/-- Passes over characters of the line. -/
def advance (cursor : Cursor) (count : Nat) : Cursor :=
  { cursor with
    rest := cursor.rest.drop count
    index := cursor.index + count
    column := cursor.column + count }

/-- Passes over the characters of the line that have a property, and returns them. -/
def takeWhile (cursor : Cursor) (property : Char → Bool) : List Char × Cursor :=
  let taken := cursor.rest.takeWhile property
  (taken, cursor.advance taken.length)

/-- Passes over blanks. -/
def skipBlanks (cursor : Cursor) : Cursor :=
  (cursor.takeWhile isBlank).2

/-- Passes over a comment, if one starts here. -/
def skipComment (cursor : Cursor) : Cursor :=
  if cursor.sees '#' then (cursor.takeWhile (!isBreak ·)).2 else cursor

/-- Passes over a line end, and returns what it counts for: line and paragraph separators for
themselves, all other line ends for a line feed. -/
def takeBreak? (cursor : Cursor) : Option (Char × Cursor) :=
  let next (count : Nat) : Cursor := {
    rest := cursor.rest.drop count, index := cursor.index + count, line := cursor.line + 1 }
  match cursor.rest with
  | '\r' :: '\n' :: _ => some ('\n', next 2)
  | c :: _ =>
    if c = '\u2028' || c = '\u2029' then some (c, next 1)
    else if isBreak c then some ('\n', next 1)
    else none
  | [] => none

/-- Whether the text ends here. -/
def atEnd (cursor : Cursor) : Bool :=
  cursor.rest.isEmpty

/-- Whether the line ends here. -/
def atLineEnd (cursor : Cursor) : Bool :=
  cursor.rest.head?.all isBreak

/-- Whether a line starts here with three times the same character and a blank. -/
def atMarker (cursor : Cursor) (mark : Char) : Bool :=
  match cursor.rest with
  | a :: b :: c :: rest =>
    cursor.column = 0 && a = mark && b = mark && c = mark && startsBlank rest
  | _ => false

/-- Whether a document starts or ends here. -/
def atDocumentMarker (cursor : Cursor) : Bool :=
  cursor.atMarker '-' || cursor.atMarker '.'

end Cursor

end ScopeScanner.Yaml
