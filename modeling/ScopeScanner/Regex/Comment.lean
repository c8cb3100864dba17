import ScopeScanner.Regex.Fault

/-!
# Blanks and comments

What may stand between two tokens of a regular expression without being matched: comments in
parentheses everywhere, and in the extended syntax also blanks and comments up to a line feed.
-/

namespace ScopeScanner.Regex

/-- What is being skipped between two tokens. -/
inductive Skip where
  | blanks
  | lineComment
  | groupComment
  | escapedInComment

/-- Goes on skipping. -/
def Skip.run (extended : Bool) : Skip → List Char → Except Fault (List Char)
  | blanks, '(' :: '?' :: '#' :: rest => run extended groupComment rest
  | blanks, c :: rest =>
    if extended && c = '#' then run extended lineComment rest
    else if extended && (c = ' ' || c = '\r' || c = '\n' || c = '\t') then
      run extended blanks rest
    else return c :: rest
  | blanks, [] => return []
  | lineComment, c :: rest => run extended (if c = '\n' then blanks else lineComment) rest
  | lineComment, [] => return []
  | groupComment, c :: rest =>
    if c = ')' then run extended blanks rest
    else if c = '\\' then run extended escapedInComment rest
    else run extended groupComment rest
  | groupComment, [] => throw .unclosedComment
  | escapedInComment, _ :: rest => run extended groupComment rest
  | escapedInComment, [] => throw .unclosedComment

/-- Drops what may stand between two tokens. -/
def skipBlanks (extended : Bool) (text : List Char) : Except Fault (List Char) :=
  Skip.run extended .blanks text

end ScopeScanner.Regex
