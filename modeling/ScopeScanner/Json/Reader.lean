import ScopeScanner.Json.Tree

/-!
# Reading JSON

The reader goes through the characters of a text once. Each function returns what it has read and
the text that is left, or no text if a fault ended the reading. The `fuel` argument bounds the depth
of the calls; `read` hands out more of it than the text can use.
-/

namespace ScopeScanner.Json

/-- The text that is left, or none after a fault. -/
abbrev Rest := Option (List Char)

/-- Drops the blanks that may stand between two tokens. -/
def skipBlanks : List Char → List Char
  | ' ' :: rest | '\t' :: rest | '\n' :: rest | '\r' :: rest => skipBlanks rest
  | text => text

/-- One part of a string: a character, or one half of a pair of surrogates. -/
inductive Piece where
  | char (c : Char)
  | unit (code : Nat)

/-- A code unit of UTF-16 as a part of a string. -/
def Piece.ofUnit (code : Nat) : Piece :=
  if 0xD800 ≤ code && code < 0xE000 then .unit code else .char (Char.ofNat code)

/-- The text that the parts of a string form; none if a surrogate stands alone. -/
def assemble : List Piece → Option (List Char)
  | [] => some []
  | .char c :: rest => (assemble rest).map (c :: ·)
  | .unit high :: .unit low :: rest =>
    if high < 0xDC00 && 0xDC00 ≤ low then
      (assemble rest).map
        (Char.ofNat (0x10000 + (high - 0xD800) * 0x400 + (low - 0xDC00)) :: ·)
    else none
  | .unit _ :: _ => none

/-- The value of a hexadecimal digit. -/
def hexDigit? (c : Char) : Option Nat :=
  if c.isDigit then some (c.toNat - '0'.toNat)
  else if 'a' ≤ c && c ≤ 'f' then some (c.toNat - 'a'.toNat + 10)
  else if 'A' ≤ c && c ≤ 'F' then some (c.toNat - 'A'.toNat + 10)
  else none

/-- The number written by four hexadecimal digits. -/
def fourHexDigits? (a b c d : Char) : Option Nat := do
  return (((← hexDigit? a) * 16 + (← hexDigit? b)) * 16 + (← hexDigit? c)) * 16 + (← hexDigit? d)

/-- The character written by a backslash and a letter. -/
def shortEscape? : Char → Option Char
  | '"' => some '"'
  | '\\' => some '\\'
  | '/' => some '/'
  | 'b' => some '\x08'
  | 'f' => some '\x0C'
  | 'n' => some '\n'
  | 'r' => some '\r'
  | 't' => some '\t'
  | _ => none

/-- The code unit written by the four bytes after a backslash and a `u`. -/
def readCodeUnit (text : List Char) : Except Fault (Nat × List Char) :=
  let bytes := (text.take 4).foldl (fun length c => length + c.utf8Size) 0
  if bytes < 4 then .error .endOfText
  else match text with
    | a :: b :: c :: d :: rest =>
      match fourHexDigits? a b c d with
      | some code => .ok (code, rest)
      | none => .error .malformed
    | _ => .error .malformed

/-- Reads the parts of a string up to and with its closing quote. `fuel` exceeds the length of the
text. -/
def readPieces : (fuel : Nat) → List Char → List Piece →
    Except (Fault × List Piece) (List Piece × List Char)
  | 0, _, pieces | _, [], pieces => .error (.endOfText, pieces)
  | _ + 1, '"' :: rest, pieces => .ok (pieces, rest)
  | fuel + 1, '\\' :: 'u' :: rest, pieces =>
    match readCodeUnit rest with
    | .ok (code, rest) => readPieces fuel rest (Piece.ofUnit code :: pieces)
    | .error fault => .error (fault, pieces)
  | fuel + 1, '\\' :: c :: rest, pieces =>
    match shortEscape? c with
    | some c => readPieces fuel rest (.char c :: pieces)
    | none => .error (.malformed, pieces)
  | _ + 1, ['\\'], pieces => .error (.endOfText, pieces)
  | fuel + 1, c :: rest, pieces =>
    if c.toNat < 0x20 then .error (.malformed, pieces) else readPieces fuel rest (.char c :: pieces)

/-- Whether the parts of a string, the last one first, could still become text: the last one may wait
for the second half of a pair. -/
def mayBecomeText (pieces : List Piece) : Bool :=
  match pieces with
  | .unit code :: earlier =>
    (assemble pieces.reverse).isSome || (code < 0xDC00 && (assemble earlier.reverse).isSome)
  | pieces => (assemble pieces.reverse).isSome

/-- What was read of a string. -/
inductive StringReading where
  /-- The string, or none if its escapes do not form text, and the text after it. -/
  | whole (value : Option String) (rest : List Char)
  /-- A fault, and whether the part in front of it could still have become text. -/
  | broken (fault : Fault) (sound : Bool)

/-- Reads a string after its opening quote. -/
def readString (text : List Char) : StringReading :=
  match readPieces (text.length + 1) text [] with
  | .ok (pieces, rest) => .whole ((assemble pieces.reverse).map String.ofList) rest
  | .error (fault, pieces) => .broken fault (mayBecomeText pieces)

/-- Reads one digit or more; the fault says whether the text ended instead. -/
def readDigits (text : List Char) : Except Fault (List Char × List Char) :=
  let digits := text.takeWhile Char.isDigit
  match digits, text with
  | [], [] => .error .endOfText
  | [], _ => .error .malformed
  | _, _ => .ok (digits, text.dropWhile Char.isDigit)

/-- Reads the integral part of a number, in which a zero stands alone. -/
def readInteger (text : List Char) : Except Fault (List Char × List Char) :=
  match text with
  | '0' :: rest =>
    match rest with
    | c :: _ => if c.isDigit then .error .malformed else .ok (['0'], rest)
    | [] => .ok (['0'], rest)
  | _ => readDigits text

/-- Reads the part of a number after the point, if there is one. -/
def readFraction (text : List Char) : Except Fault (List Char × List Char) :=
  match text with
  | '.' :: rest => (readDigits rest).map fun (digits, rest) => ('.' :: digits, rest)
  | _ => .ok ([], text)

/-- Reads the exponent of a number, if there is one. -/
def readExponent (text : List Char) : Except Fault (List Char × List Char) :=
  match text with
  | 'e' :: rest | 'E' :: rest =>
    match rest with
    | '+' :: rest => (readDigits rest).map fun (digits, rest) => ('e' :: '+' :: digits, rest)
    | '-' :: rest => (readDigits rest).map fun (digits, rest) => ('e' :: '-' :: digits, rest)
    | _ => (readDigits rest).map fun (digits, rest) => ('e' :: digits, rest)
  | _ => .ok ([], text)

/-- Reads a number. -/
def readNumber (text : List Char) : Except Fault (String × List Char) := do
  let (sign, text) := match text with
    | '-' :: rest => (['-'], rest)
    | _ => ([], text)
  let (integer, text) ← readInteger text
  let (fraction, text) ← readFraction text
  let (exponent, text) ← readExponent text
  return (String.ofList (sign ++ integer ++ fraction ++ exponent), text)

/-- Reads the rest of a word such as `true`. -/
def readWord : (word text : List Char) → Except Fault (List Char)
  | [], text => .ok text
  | _ :: _, [] => .error .endOfText
  | c :: word, d :: rest => if c = d then readWord word rest else .error .malformed

/-- The value of a word, or the fault in it. -/
def wordValue (value : Tree) (word text : List Char) : Tree × Rest :=
  match readWord word text with
  | .ok rest => (value, some rest)
  | .error fault => (.broken fault, none)

mutual

/-- Reads a value. -/
def readValue : (fuel : Nat) → List Char → Tree × Rest
  | 0, _ => (.broken .malformed, none)
  | fuel + 1, text =>
    match skipBlanks text with
    | [] => (.broken .endOfText, none)
    | 'n' :: rest => wordValue .null ['u', 'l', 'l'] rest
    | 't' :: rest => wordValue (.bool true) ['r', 'u', 'e'] rest
    | 'f' :: rest => wordValue (.bool false) ['a', 'l', 's', 'e'] rest
    | '"' :: rest =>
      match readString rest with
      | .whole value rest => (.string value, some rest)
      | .broken fault sound => (if sound then .broken fault else .brokenText fault, none)
    | '[' :: rest =>
      match skipBlanks rest with
      | ']' :: rest => (.array [] none, some rest)
      | rest =>
        let (items, tail, rest) := readItems fuel rest []
        (.array items tail, rest)
    | '\x7b' :: rest =>
      match skipBlanks rest with
      | '\x7d' :: rest => (.object [] none, some rest)
      | rest =>
        let (entries, tail, rest) := readEntries fuel rest []
        (.object entries tail, rest)
    | c :: rest =>
      if c = '-' || c.isDigit then
        match readNumber (c :: rest) with
        | .ok (literal, rest) => (.number literal, some rest)
        | .error fault => (.broken fault, none)
      else (.broken .malformed, none)

/-- Reads the items of an array from the next item on; `items` holds the earlier ones, last
first. -/
def readItems : (fuel : Nat) → List Char → List Tree → List Tree × Option Fault × Rest
  | 0, _, items => (items.reverse, some .malformed, none)
  | fuel + 1, text, items =>
    match skipBlanks text with
    | [] => (items.reverse, some .endOfText, none)
    | text =>
      match readValue fuel text with
      | (item, none) => ((item :: items).reverse, none, none)
      | (item, some rest) =>
        match skipBlanks rest with
        | ']' :: rest => ((item :: items).reverse, none, some rest)
        | ',' :: rest =>
          match skipBlanks rest with
          | ']' :: _ => ((item :: items).reverse, some .malformed, none)
          | rest => readItems fuel rest (item :: items)
        | [] => ((item :: items).reverse, some .endOfText, none)
        | _ => ((item :: items).reverse, some .malformed, none)

/-- Reads the entries of an object from the next key on; `entries` holds the earlier ones, last
first. -/
def readEntries : (fuel : Nat) → List Char → List (String × Tree) →
    List (String × Tree) × Option Fault × Rest
  | 0, _, entries => (entries.reverse, some .malformed, none)
  | fuel + 1, text, entries =>
    match skipBlanks text with
    | [] => (entries.reverse, some .endOfText, none)
    | '"' :: rest =>
      match readString rest with
      | .broken fault true => (entries.reverse, some fault, none)
      | .broken fault false => ((("", .keyless (.broken fault)) :: entries).reverse, none, none)
      | .whole key rest =>
        let entry (value : Tree) : String × Tree := match key with
          | some key => (key, value)
          | none => ("", .keyless value)
        match skipBlanks rest with
        | [] => ((entry (.broken .endOfText) :: entries).reverse, none, none)
        | ':' :: rest =>
          match readValue fuel rest with
          | (value, none) => ((entry value :: entries).reverse, none, none)
          | (value, some rest) =>
            let entries := entry value :: entries
            match skipBlanks rest with
            | '\x7d' :: rest => (entries.reverse, none, some rest)
            | ',' :: rest =>
              match skipBlanks rest with
              | '\x7d' :: _ => (entries.reverse, some .malformed, none)
              | rest => readEntries fuel rest entries
            | [] => (entries.reverse, some .endOfText, none)
            | _ => (entries.reverse, some .malformed, none)
        | _ => ((entry (.broken .malformed) :: entries).reverse, none, none)
    | _ => (entries.reverse, some .malformed, none)

end

/-- What was read of a text, and whether anything but blanks follows the value. -/
structure Reading where
  tree : Tree
  trailing : Bool

/-- Reads a JSON text. -/
def readTree (text : String) : Reading :=
  let chars := text.toList
  match readValue (2 * chars.length + 2) chars with
  | (tree, none) => { tree, trailing := false }
  | (tree, some rest) => { tree, trailing := !(skipBlanks rest).isEmpty }

/-- Passes a value on unless something follows it in the text. -/
def Reading.finish {α : Type} (reading : Reading) (value : Except Fault α) : Except Fault α := do
  let value ← value
  if reading.trailing then throw .malformed else return value

/-- The document written by a JSON text. -/
def read (text : String) : Except Fault Document :=
  let reading := readTree text
  reading.finish (reading.tree.toDocument textLevels)

end ScopeScanner.Json
