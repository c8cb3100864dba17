import ScopeScanner.Unicode.Derived

/-!
# Recent characters

Patterns know the characters of version 16 of the character database. Names of groups and the
quoting of texts follow version 17, which assigned some more characters. They are listed here with
their categories, and the properties that names and quoting ask for are given for both versions
together.
-/

namespace ScopeScanner.Unicode

/-- The runs of characters whose category differs from version 16: where a run starts, its length
and its category. -/
def recentRuns : List (Nat × Nat × Category) := [
  (0x295, 1, .otherLetter), (0x88F, 1, .otherLetter), (0xC5C, 1, .otherLetter),
  (0xCDC, 1, .otherLetter), (0x1ACF, 15, .nonspacingMark), (0x1AE0, 12, .nonspacingMark),
  (0x20C1, 1, .currencySymbol), (0x2B96, 1, .otherSymbol), (0xA7CE, 1, .uppercaseLetter),
  (0xA7CF, 1, .lowercaseLetter), (0xA7D2, 1, .uppercaseLetter), (0xA7D4, 1, .uppercaseLetter),
  (0xA7F1, 1, .modifierLetter), (0xFBC3, 16, .otherSymbol), (0xFD90, 2, .otherSymbol),
  (0xFDC8, 7, .otherSymbol), (0x10940, 26, .otherLetter), (0x10EC5, 1, .modifierLetter),
  (0x10EC6, 2, .otherLetter), (0x10ED0, 1, .otherPunctuation), (0x10ED1, 8, .otherSymbol),
  (0x10EFA, 2, .nonspacingMark), (0x11B60, 1, .nonspacingMark), (0x11B61, 1, .spacingMark),
  (0x11B62, 3, .nonspacingMark), (0x11B65, 1, .spacingMark), (0x11B66, 1, .nonspacingMark),
  (0x11B67, 1, .spacingMark), (0x11DB0, 41, .otherLetter), (0x11DD9, 1, .modifierLetter),
  (0x11DDA, 2, .otherLetter), (0x11DE0, 10, .decimalNumber), (0x16EA0, 25, .uppercaseLetter),
  (0x16EBB, 25, .lowercaseLetter), (0x16FF2, 2, .modifierLetter), (0x16FF4, 3, .letterNumber),
  (0x187F8, 8, .otherLetter), (0x18D09, 22, .otherLetter), (0x18D80, 115, .otherLetter),
  (0x1CCFA, 3, .otherSymbol), (0x1CEBA, 23, .otherSymbol), (0x1CEE0, 16, .otherSymbol),
  (0x1CEF0, 1, .mathSymbol), (0x1E6C0, 31, .otherLetter), (0x1E6E0, 3, .otherLetter),
  (0x1E6E3, 1, .nonspacingMark), (0x1E6E4, 2, .otherLetter), (0x1E6E6, 1, .nonspacingMark),
  (0x1E6E7, 7, .otherLetter), (0x1E6EE, 2, .nonspacingMark), (0x1E6F0, 5, .otherLetter),
  (0x1E6F5, 1, .nonspacingMark), (0x1E6FE, 1, .otherLetter), (0x1E6FF, 1, .modifierLetter),
  (0x1F6D8, 1, .otherSymbol), (0x1F777, 4, .otherSymbol), (0x1F8D0, 9, .mathSymbol),
  (0x1FA54, 4, .otherSymbol), (0x1FA8A, 1, .otherSymbol), (0x1FA8E, 1, .otherSymbol),
  (0x1FAC8, 1, .otherSymbol), (0x1FACD, 1, .otherSymbol), (0x1FAEA, 1, .otherSymbol),
  (0x1FAEF, 1, .otherSymbol), (0x1FBFA, 1, .otherSymbol), (0x2B73A, 6, .otherLetter),
  (0x2CEA2, 12, .otherLetter), (0x323B0, 4298, .otherLetter)]

/-- The category of a character in the recent version. -/
def recentCategory (c : Char) : Category :=
  match recentRuns.find? fun run => run.1 ≤ c.toNat && c.toNat < run.1 + run.2.1 with
  | some run => run.2.2
  | none => category c

/-- Alphabetic characters of the recent version. The marks that it added to the first plane are not
alphabetic, those in other planes are. -/
def isRecentAlphabetic (c : Char) : Bool :=
  isAlphabetic c || category c = .unassigned &&
    match recentCategory c with
    | .nonspacingMark | .spacingMark => 0x10000 ≤ c.toNat
    | .letterNumber => true
    | category => category.major = 'L'

/-- Alphabetic characters and numbers of any kind. -/
def isAlphanumeric (c : Char) : Bool :=
  if c.toNat < 128 then c.isAlphanum
  else isRecentAlphabetic c || (recentCategory c).major = 'N'

/-- Marks and joiners, which attach to the character in front of them. Sound marks that have a width
of their own do not count. -/
def attaches (c : Char) : Bool :=
  match recentCategory c with
  | .nonspacingMark | .enclosingMark => true
  | .modifierLetter => false
  | _ => Listed.otherGraphemeExtend.contains c

/-- Whether a character can be seen on its own, the blank included. -/
def isVisible (c : Char) : Bool :=
  c = ' ' || match recentCategory c with
    | .spaceSeparator | .lineSeparator | .paragraphSeparator => false
    | category => category.major ≠ 'C' && !isDefaultIgnorable c

end ScopeScanner.Unicode
