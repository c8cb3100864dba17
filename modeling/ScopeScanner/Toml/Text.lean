import ScopeScanner.Json.Reader

/-!
# Texts in TOML

Texts in double quotes may hold escapes, texts in single quotes stand for themselves. With three
quotes a text may go over several lines; a line end right after the opening quotes is dropped, and in
double quotes a backslash at the end of a line joins it with the next.
-/

namespace ScopeScanner.Toml

/-- Reads something at the start of a text and returns it with the text that is left; none if it is
not there. -/
abbrev Reader (α : Type) := List Char → Option (α × List Char)

/-- Whether a character separates words. -/
def isBlank (c : Char) : Bool :=
  c = ' ' || c = '\t'

/-- Whether a character may stand in a comment or a text on one line. -/
def isVisible (c : Char) : Bool :=
  c = '\t' || (' ' ≤ c && c ≠ '\x7F')

/-- Passes over blanks. -/
def skipBlanks (text : List Char) : List Char :=
  text.dropWhile isBlank

/-- Passes over a line end. -/
def skipLineEnd? : List Char → Option (List Char)
  | '\n' :: rest | '\r' :: '\n' :: rest => some rest
  | _ => none

/-- Passes over a comment, if there is one. -/
def skipComment (text : List Char) : List Char :=
  match text with
  | '#' :: rest => rest.dropWhile isVisible
  | _ => text

/-- What a backslash and a letter stand for. -/
def escape? : Char → Option Char
  | 'b' => some '\x08'
  | 't' => some '\t'
  | 'n' => some '\n'
  | 'f' => some '\x0C'
  | 'r' => some '\r'
  | '"' => some '"'
  | '\\' => some '\\'
  | _ => none

/-- The character that hexadecimal digits stand for. -/
def hexChar? (digits : List Char) : Option Char := do
  let values ← digits.mapM Json.hexDigit?
  let code := values.foldl (fun code digit => code * 16 + digit) 0
  if code.isValidChar then some (Char.ofNat code) else none

/-- Reads an escape after its backslash. -/
def readEscape : Reader Char
  | 'u' :: rest =>
    if rest.length < 4 then none else (hexChar? (rest.take 4)).map fun c => (c, rest.drop 4)
  | 'U' :: rest =>
    if rest.length < 8 then none else (hexChar? (rest.take 8)).map fun c => (c, rest.drop 8)
  | c :: rest => (escape? c).map fun c => (c, rest)
  | [] => none

/-- Passes over blanks and line ends after a backslash at the end of a line. There must be at least
one line end. -/
def joinLines (text : List Char) : Option (List Char) := do
  let rest ← skipLineEnd? (skipBlanks text)
  return skipAll rest.length rest
where
  /-- Passes over blanks and line ends. -/
  skipAll : Nat → List Char → List Char
    | 0, text => text
    | fuel + 1, text =>
      let text := skipBlanks text
      match skipLineEnd? text with
      | some rest => skipAll fuel rest
      | none => text

/-- Reads the rest of a text in quotes on one line. -/
def readLine (quote : Char) : (fuel : Nat) → (done : List Char) → Reader (List Char)
  | 0, _, _ | _, _, [] => none
  | fuel + 1, done, c :: rest =>
    if c = quote then some (done.reverse, rest)
    else if c = '\\' && quote = '"' then do
      let (escaped, rest) ← readEscape rest
      readLine quote fuel (escaped :: done) rest
    else if isVisible c then readLine quote fuel (c :: done) rest
    else none

/-- Reads the rest of a text in three quotes. Up to two more quotes may stand in front of the closing
ones. -/
def readLines (quote : Char) : (fuel : Nat) → (done : List Char) → Reader (List Char)
  | 0, _, _ | _, _, [] => none
  | fuel + 1, done, c :: rest =>
    if c = quote then
      let count := ((c :: rest).takeWhile (· = quote)).length
      if count < 3 then readLines quote fuel (c :: done) rest
      else if 5 < count then none
      else some ((List.replicate (count - 3) quote ++ done).reverse, (c :: rest).drop count)
    else if c = '\\' && quote = '"' then
      match joinLines rest with
      | some rest => readLines quote fuel done rest
      | none => do
        let (escaped, rest) ← readEscape rest
        readLines quote fuel (escaped :: done) rest
    else match skipLineEnd? (c :: rest) with
      | some rest => readLines quote fuel ('\n' :: done) rest
      | none => if isVisible c then readLines quote fuel (c :: done) rest else none

/-- Reads a text in quotes on one line. -/
def readQuotedLine : Reader String
  | c :: rest => do
    if c ≠ '"' && c ≠ '\'' then none
    let (value, rest) ← readLine c (rest.length + 1) [] rest
    return (String.ofList value, rest)
  | [] => none

/-- Reads a text in quotes. -/
def readQuoted : Reader String
  | a :: b :: c :: rest => do
    if (a = '"' || a = '\'') && b = a && c = a then
      let rest := (skipLineEnd? rest).getD rest
      let (value, rest) ← readLines a (rest.length + 1) [] rest
      return (String.ofList value, rest)
    else readQuotedLine (a :: b :: c :: rest)
  | text => readQuotedLine text

end ScopeScanner.Toml
