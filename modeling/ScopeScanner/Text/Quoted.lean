import ScopeScanner.Unicode.Recent

/-!
# Quoted texts

A text in quotes for reports, so that every character in it can be told: quotes, backslashes and
common control characters are escaped by a backslash, and every other character that is not visible
on its own is written as its code in braces.
-/

namespace ScopeScanner.Text

open ScopeScanner

/-- A character as it is written in quotes. -/
def quoteChar (c : Char) : List Char :=
  match c with
  | '\x00' => ['\\', '0']
  | '\t' => ['\\', 't']
  | '\r' => ['\\', 'r']
  | '\n' => ['\\', 'n']
  | '\\' => ['\\', '\\']
  | '"' => ['\\', '"']
  | c =>
    if !Unicode.attaches c && Unicode.isVisible c then [c]
    else '\\' :: 'u' :: '\x7b' :: Nat.toDigits 16 c.toNat ++ ['\x7d']

/-- A text in quotes. -/
def quoted (text : String) : String :=
  String.ofList ('"' :: (text.toList.flatMap quoteChar ++ ['"']))

/-- Texts in quotes, separated by commas. -/
def quotedList (texts : List String) : String :=
  ", ".intercalate (texts.map quoted)

end ScopeScanner.Text
