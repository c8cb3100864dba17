/-!
# Faults of regular expressions

The reasons for which a text is no regular expression.
-/

namespace ScopeScanner.Regex

/-- Why a text is not a regular expression. -/
inductive Fault where
  | trailingBackslash
  | unknownEscape (letter : Char)
  | badHexadecimal
  | notACodePoint
  | unclosedProperty
  | unknownProperty
  | badGroupName
  | unknownGroup
  | unclosedGroup
  | strayParenthesis
  | unclosedComment
  | nothingToRepeat
  | reversedBounds
  | boundTooLarge
  | unknownFlag
  | nestedTooDeep
  | unclosedClass
  | reversedRange
  | badRangeEnd
  | notInClass
  | mixedReferences
  | lookbehindNotFixed
  /-- A condition that neither names a group nor is followed by anything. -/
  | emptyConditional
  /-- A part that has to be plain and is not. -/
  | notPlain
  | tooLarge
  | outOfFuel
deriving DecidableEq, Repr

end ScopeScanner.Regex
