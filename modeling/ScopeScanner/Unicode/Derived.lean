import ScopeScanner.Unicode.Break
import ScopeScanner.Unicode.Category
import ScopeScanner.Unicode.Listed

/-!
# Derived properties

Properties of characters that follow from general categories, break classes and listed properties:
white space, alphabetic and word characters, upper and lower case, and what identifiers are made
of. Those that patterns meet most often answer for ASCII characters without a table.
-/

namespace ScopeScanner.Unicode

/-- White space: the characters that separate words, lines and paragraphs. -/
def isBlank (c : Char) : Bool :=
  let code := c.toNat
  (9 ≤ code && code ≤ 13) || code = 0x20 || code = 0x85 || code = 0xA0 || code = 0x1680
    || (0x2000 ≤ code && code ≤ 0x200A) || code = 0x2028 || code = 0x2029 || code = 0x202F
    || code = 0x205F || code = 0x3000

/-- Letters of any kind. -/
def isLetter (c : Char) : Bool :=
  (category c).major = 'L'

def isLowercase (c : Char) : Bool :=
  category c = .lowercaseLetter || Listed.otherLowercase.contains c

def isUppercase (c : Char) : Bool :=
  category c = .uppercaseLetter || Listed.otherUppercase.contains c

/-- Characters in lower, upper or title case. -/
def isCased (c : Char) : Bool :=
  isLowercase c || isUppercase c || category c = .titlecaseLetter

/-- Characters that do not count when the case of a word is told. -/
def isCaseIgnorable (c : Char) : Bool :=
  match category c with
  | .nonspacingMark | .enclosingMark | .format | .modifierLetter | .modifierSymbol => true
  | _ => ["ML", "MB", "SQ"].contains (BreakKind.word.classOf c)

/-- Letters, letter numbers and the further alphabetic characters. -/
def isAlphabetic (c : Char) : Bool :=
  if c.toNat < 128 then c.isAlpha
  else isLetter c || category c = .letterNumber || Listed.otherAlphabetic.contains c
    || Listed.otherLowercase.contains c || Listed.otherUppercase.contains c

/-- Decimal digits of any script. -/
def isDecimal (c : Char) : Bool :=
  if c.toNat < 128 then c.isDigit else category c = .decimalNumber

/-- Word characters: alphabetic characters, marks, decimal digits, connectors and joiners. -/
def isWord (c : Char) : Bool :=
  if c.toNat < 128 then c.isAlphanum || c = '_'
  else isAlphabetic c || isDecimal c || (category c).major = 'M'
    || category c = .connectorPunctuation || Listed.joinControl.contains c

/-- Symbols and signs of mathematics. -/
def isMath (c : Char) : Bool :=
  category c = .mathSymbol || Listed.otherMath.contains c

/-- Characters reserved for the notation of patterns. -/
def isPatternSyntax (c : Char) : Bool :=
  Listed.patternSyntax.contains c || Listed.patternWhiteSpace.contains c

/-- What an identifier may start with. -/
def startsIdentifier (c : Char) : Bool :=
  (isLetter c || category c = .letterNumber || Listed.otherIdStart.contains c)
    && !isPatternSyntax c

/-- What an identifier may go on with. -/
def continuesIdentifier (c : Char) : Bool :=
  let more := match category c with
    | .nonspacingMark | .spacingMark | .decimalNumber | .connectorPunctuation => true
    | _ => Listed.otherIdContinue.contains c
  (startsIdentifier c || more) && !isPatternSyntax c

/-- Characters whose compatibility forms do not fit into an identifier at all. -/
def unfitForIdentifiers : Boundaries :=
  readBoundaries ["890 1 11552 2 52161 6 406 2 116 1 1 1 1 1 1 1 1 1 1 1 1 1 1 1"]

/-- Characters whose compatibility forms do not fit at the start of an identifier. -/
def unfitAtStart : Boundaries :=
  readBoundaries ["3635 1 127 1 61674 2"]

/-- What an identifier may start with in any compatibility form. -/
def startsStableIdentifier (c : Char) : Bool :=
  startsIdentifier c && !unfitForIdentifiers.contains c && !unfitAtStart.contains c

/-- What an identifier may go on with in any compatibility form. -/
def continuesStableIdentifier (c : Char) : Bool :=
  continuesIdentifier c && !unfitForIdentifiers.contains c

/-- Characters that are not shown where they are not supported. -/
def isDefaultIgnorable (c : Char) : Bool :=
  let code := c.toNat
  (Listed.otherDefaultIgnorableCodePoint.contains c || category c = .format
      || Listed.variationSelector.contains c)
    && !(isBlank c || (0xFFF9 ≤ code && code ≤ 0xFFFB) || (0x13430 ≤ code && code ≤ 0x13440)
      || Listed.prependedConcatenationMark.contains c)

/-- Characters that attach to the one in front of them. -/
def extendsGrapheme (c : Char) : Bool :=
  match category c with
  | .nonspacingMark | .enclosingMark => true
  | _ => Listed.otherGraphemeExtend.contains c

/-- Characters that other characters attach to. -/
def startsGrapheme (c : Char) : Bool :=
  match category c with
  | .lineSeparator | .paragraphSeparator => false
  | category => category.major ≠ 'C' && !extendsGrapheme c

/-- Characters that have a counterpart in another case. -/
def changesWhenCasemapped (c : Char) : Bool :=
  Listed.changesWhenLowercased.contains c || Listed.changesWhenTitlecased.contains c
    || Listed.changesWhenUppercased.contains c

end ScopeScanner.Unicode
