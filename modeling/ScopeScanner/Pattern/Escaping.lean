/-!
# Backslash escapes

A backslash and the character after it form one unit. Units are taken from left to right and never
overlap, so in `\\1` the digit belongs to no escape: the two backslashes do. `substitute` replaces
chosen units and copies everything else; a backslash at the very end is no unit.
-/

namespace ScopeScanner.Escaping

/-- Replaces the escapes for which `replace` gives a text and keeps the others. -/
def substitute (replace : Char → Option (List Char)) : List Char → List Char
  | '\\' :: c :: rest => (replace c).getD ['\\', c] ++ substitute replace rest
  | c :: rest => c :: substitute replace rest
  | [] => []

/-- Whether some escaped character satisfies a condition. -/
def any (condition : Char → Bool) : List Char → Bool
  | '\\' :: c :: rest => condition c || any condition rest
  | _ :: rest => any condition rest
  | [] => false

/-- Whether a character has a meaning of its own in a regular expression. -/
def isSpecial (c : Char) : Bool :=
  ['\\', '.', '+', '*', '?', '(', ')', '|', '[', ']', '\x7b', '\x7d', '^', '$', '#'].contains c

/-- A regular expression for a text taken literally: special characters get a backslash. -/
def quote : List Char → List Char
  | [] => []
  | c :: rest => if isSpecial c then '\\' :: c :: quote rest else c :: quote rest

end ScopeScanner.Escaping
