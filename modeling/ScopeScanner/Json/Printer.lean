import ScopeScanner.Document.Basic

/-!
# Writing JSON

Two layouts: a compact one without any blanks, and an indented one with two spaces a level, one
item or entry a line and a blank after each colon. In both, empty arrays and objects are written
without content, and strings escape the quote, the backslash and control characters below U+0020
and nothing else.
-/

namespace ScopeScanner.Json

/-- A hexadecimal digit below sixteen, in lower case. -/
def hexChar (value : Nat) : Char :=
  if value < 10 then Char.ofNat ('0'.toNat + value) else Char.ofNat ('a'.toNat + (value - 10))

/-- A character as it is written inside a string. -/
def escapeChar (c : Char) : List Char :=
  match c with
  | '"' => ['\\', '"']
  | '\\' => ['\\', '\\']
  | '\x08' => ['\\', 'b']
  | '\x0C' => ['\\', 'f']
  | '\n' => ['\\', 'n']
  | '\r' => ['\\', 'r']
  | '\t' => ['\\', 't']
  | c =>
    if c.toNat < 0x20 then ['\\', 'u', '0', '0', hexChar (c.toNat / 16), hexChar (c.toNat % 16)]
    else [c]

/-- A string with its quotes. -/
def quoteText (text : String) : List Char :=
  '"' :: (text.toList.flatMap escapeChar ++ ['"'])

mutual

/-- A document in the compact layout. -/
def compact : Document → List Char
  | .null => ['n', 'u', 'l', 'l']
  | .bool true => ['t', 'r', 'u', 'e']
  | .bool false => ['f', 'a', 'l', 's', 'e']
  | .number literal => literal.toList
  | .string value => quoteText value
  | .array items => '[' :: (compactItems items ++ [']'])
  | .object entries => '\x7b' :: (compactEntries entries ++ ['\x7d'])

/-- Items separated by commas. -/
def compactItems : List Document → List Char
  | [] => []
  | [item] => compact item
  | item :: rest => compact item ++ ',' :: compactItems rest

/-- Entries separated by commas. -/
def compactEntries : List (String × Document) → List Char
  | [] => []
  | [(key, value)] => quoteText key ++ ':' :: compact value
  | (key, value) :: rest => quoteText key ++ ':' :: (compact value ++ ',' :: compactEntries rest)

end

/-- The start of a line at a level of the indented layout. -/
def newLine (level : Nat) : List Char :=
  '\n' :: List.replicate (2 * level) ' '

mutual

/-- A document in the indented layout, inside a line at the given level. -/
def indented (level : Nat) : Document → List Char
  | .null => ['n', 'u', 'l', 'l']
  | .bool true => ['t', 'r', 'u', 'e']
  | .bool false => ['f', 'a', 'l', 's', 'e']
  | .number literal => literal.toList
  | .string value => quoteText value
  | .array [] => ['[', ']']
  | .array (item :: rest) =>
    '[' :: (indentedItems (level + 1) (item :: rest) ++ newLine level ++ [']'])
  | .object [] => ['\x7b', '\x7d']
  | .object (entry :: rest) =>
    '\x7b' :: (indentedEntries (level + 1) (entry :: rest) ++ newLine level ++ ['\x7d'])

/-- Items on lines of their own. -/
def indentedItems (level : Nat) : List Document → List Char
  | [] => []
  | [item] => newLine level ++ indented level item
  | item :: rest => newLine level ++ indented level item ++ ',' :: indentedItems level rest

/-- Entries on lines of their own. -/
def indentedEntries (level : Nat) : List (String × Document) → List Char
  | [] => []
  | [(key, value)] => newLine level ++ quoteText key ++ ':' :: ' ' :: indented level value
  | (key, value) :: rest =>
    newLine level ++ quoteText key ++
      ':' :: ' ' :: (indented level value ++ ',' :: indentedEntries level rest)

end

/-- The compact text of a document. -/
def print (document : Document) : String :=
  String.ofList (compact document)

/-- The indented text of a document. -/
def printIndented (document : Document) : String :=
  String.ofList (indented 0 document)

end ScopeScanner.Json
