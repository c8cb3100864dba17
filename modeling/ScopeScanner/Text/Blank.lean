import ScopeScanner.Unicode.Property

/-!
# Blanks in texts

Cutting texts at white space and trimming line ends.
-/

namespace ScopeScanner.Text

open ScopeScanner

/-- The parts of a text between runs of white space; `part` holds the present part, last character
first. -/
def wordsFrom : (part : List Char) → List Char → List String
  | part, [] => if part.isEmpty then [] else [String.ofList part.reverse]
  | part, c :: rest =>
    if Unicode.isBlank c then
      if part.isEmpty then wordsFrom [] rest
      else String.ofList part.reverse :: wordsFrom [] rest
    else wordsFrom (c :: part) rest

/-- The parts of a text between runs of white space. -/
def words (text : String) : List String :=
  wordsFrom [] text.toList

/-- Whether a text holds nothing but white space. -/
def isBlank (text : String) : Bool :=
  text.toList.all Unicode.isBlank

/-- Whether a character ends a line. -/
def isLineEnd (c : Char) : Bool :=
  c = '\n' || c = '\r'

/-- Drops the line feeds and carriage returns at the end. -/
def dropLineEnds (chars : List Char) : List Char :=
  (chars.reverse.dropWhile isLineEnd).reverse

/-- The lines of a text, each with the line feed that ends it. A line feed at the very end does not
start another line. -/
def lines : List Char → List (List Char)
  | [] => []
  | c :: rest =>
    if c = '\n' then [c] :: lines rest
    else match lines rest with
      | [] => [[c]]
      | line :: more => (c :: line) :: more

end ScopeScanner.Text
