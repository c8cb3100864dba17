import ScopeScanner.Regex.CharSet
import ScopeScanner.Regex.Comment
import ScopeScanner.Regex.Node
import ScopeScanner.Unicode.Recent

/-!
# Escapes

Reading what follows a backslash. An escape stands for one character, for a set of characters, for
an assertion, or for the text of a group. Inside brackets only the first two are allowed, and the
letters of assertions lose their meaning there. A set keeps the way it is written, because inside
brackets it becomes part of the text of a class.
-/

namespace ScopeScanner.Regex

open ScopeScanner

/-- What an escape stands for. -/
inductive Escape where
  /-- A character; `folds` says whether it may match up to case. -/
  | char (c : Char) (folds : Bool)
  /-- A set together with its text inside brackets. -/
  | set (set : CharSet) (text : List Char)
  | assertion (assertion : Assertion)
  | keepOut
  | group (number : Nat)
  /-- A group by name, or by its distance forwards or backwards from the latest one. -/
  | namedGroup (name : String)
  | groupAhead (distance : Nat)
  | groupBehind (distance : Nat)
deriving DecidableEq, Repr

/-- Whether a character may stand in the name of a group. -/
def isNameChar (c : Char) : Bool :=
  c = '_' || Unicode.isAlphanumeric c

/-- Whether a character is a hexadecimal digit. -/
def isHexDigit (c : Char) : Bool :=
  c.isDigit || ('a' ≤ c && c ≤ 'f') || ('A' ≤ c && c ≤ 'F')

/-- The value of a hexadecimal digit. -/
def hexValue (c : Char) : Nat :=
  if c.isDigit then c.toNat - '0'.toNat
  else if 'a' ≤ c then c.toNat - 'a'.toNat + 10
  else c.toNat - 'A'.toNat + 10

/-- The number written by hexadecimal digits. -/
def hexNumber (digits : List Char) : Nat :=
  digits.foldl (fun value c => value * 16 + hexValue c) 0

/-- The number written by decimal digits. -/
def decimalNumber (digits : List Char) : Nat :=
  digits.foldl (fun value c => value * 10 + (c.toNat - '0'.toNat)) 0

/-- The largest number that a reference or a bound may hold. -/
def maxNumber : Nat := 18446744073709551615

/-- The number written by decimal digits, unless it is too large. -/
def number? (digits : List Char) : Option Nat :=
  let number := decimalNumber digits
  if digits.isEmpty || maxNumber < number then none else some number

/-- The character with a given code point, surrogates and too large numbers excluded. -/
def charOfCode? (code : Nat) : Option Char :=
  if code < 0xD800 || (0xE000 ≤ code && code < 0x110000) then some (Char.ofNat code) else none

/-! ## Hexadecimal escapes -/

/-- Reads exactly `count` hexadecimal digits. -/
def readHexDigits (extended : Bool) :
    (count : Nat) → List Char → Except Fault (List Char × List Char)
  | 0, text => return ([], text)
  | count + 1, text => do
    match ← skipBlanks extended text with
    | c :: rest =>
      if isHexDigit c then
        let (digits, rest) ← readHexDigits extended count rest
        return (c :: digits, rest)
      else throw .badHexadecimal
    | [] => throw .badHexadecimal

/-- Reads between one and `most` hexadecimal digits up to a closing brace. -/
def readHexUntilBrace (extended : Bool) :
    (most : Nat) → List Char → Except Fault (List Char × List Char)
  | most, text => do
    match ← skipBlanks extended text with
    | '\x7d' :: rest => return ([], rest)
    | c :: rest =>
      match most with
      | most + 1 =>
        if isHexDigit c then
          let (digits, rest) ← readHexUntilBrace extended most rest
          return (c :: digits, rest)
        else throw .badHexadecimal
      | 0 => throw .badHexadecimal
    | [] => throw .badHexadecimal

/-- Reads the digits of a hexadecimal escape: exactly `count` of them, or up to eight in braces. -/
def readHex (extended : Bool) (count : Nat) (text : List Char) :
    Except Fault (Escape × List Char) := do
  let (digits, rest) ← match ← skipBlanks extended text with
    | '\x7b' :: rest => readHexUntilBrace extended 8 rest
    | text => readHexDigits extended count text
  if digits.isEmpty then throw .badHexadecimal
  match charOfCode? (hexNumber digits) with
  | some c => return (.char c true, rest)
  | none => throw .notACodePoint

/-! ## Properties -/

/-- Cuts a text at the first occurrence of a separator. -/
def cutAt? (separator : List Char) : List Char → Option (List Char × List Char)
  | [] => none
  | c :: rest =>
    if separator.isPrefixOf (c :: rest) then some ([], (c :: rest).drop separator.length)
    else (cutAt? separator rest).map fun (before, after) => (c :: before, after)

/-- The property written between the braces of a property escape, and whether it is negated. -/
def propertyOf? (name : List Char) : Option (Bool × Unicode.Property) :=
  let valued (property : List Char × List Char) :=
    Unicode.Property.ofNameValue? (String.ofList property.1) (String.ofList property.2)
  match cutAt? ['!', '='] name, cutAt? [':'] name, cutAt? ['='] name with
  | some property, _, _ => (valued property).map (true, ·)
  | none, some property, _ => (valued property).map (false, ·)
  | none, none, some property => (valued property).map (false, ·)
  | none, none, none => (Unicode.Property.ofName? (String.ofList name)).map (false, ·)

/-- Reads a property escape after its letter; `negated` is set for an upper-case letter. -/
def readProperty (negated ignoreCase : Bool) (text : List Char) :
    Except Fault (CharSet × List Char) := do
  let (name, rest) ← match text with
    | '\x7b' :: inner =>
      match inner.dropWhile (· != '\x7d') with
      | _ :: rest => pure (inner.takeWhile (· != '\x7d'), rest)
      | [] => throw .unclosedProperty
    | c :: rest => pure ([c], rest)
    | [] => throw .unclosedProperty
  match propertyOf? name with
  | some (inverse, property) =>
    return (CharSet.negateIf (negated != inverse) (.leaf ignoreCase (.property property)), rest)
  | none => throw .unknownProperty

/-! ## References -/

/-- Reads a group name between two delimiters. -/
def readName (opening closing : Char) (text : List Char) : Except Fault (String × List Char) :=
  match text with
  | c :: inner =>
    if c != opening then throw .badGroupName
    else
      let name := inner.takeWhile isNameChar
      match inner.dropWhile isNameChar with
      | d :: rest =>
        if d = closing && !name.isEmpty then return (String.ofList name, rest)
        else throw .badGroupName
      | [] => throw .badGroupName
  | [] => throw .badGroupName

/-- Reads a named reference: a name between two delimiters, or a sign and a number that count
groups from the latest one. -/
def readReference (opening closing : Char) (text : List Char) :
    Except Fault (Escape × List Char) := do
  match text with
  | c :: sign :: inner =>
    if c = opening && (sign = '-' || sign = '+') then
      let (name, rest) ← readName opening closing (opening :: inner)
      if !name.toList.all Char.isDigit then throw .unknownGroup
      match number? name.toList with
      | some distance =>
        return (if sign = '-' then .groupBehind distance else .groupAhead distance, rest)
      | none => throw .unknownGroup
    else
      let (name, rest) ← readName opening closing text
      return (.namedGroup name, rest)
  | _ => throw .badGroupName

/-! ## Assertions -/

/-- The assertion that a letter stands for outside brackets. -/
def assertionOf? : Char → Option Assertion
  | 'A' => some .textStart
  | 'z' => some .textEnd
  | 'Z' => some .textEndBeforeFeeds
  | '<' => some .wordStart
  | '>' => some .wordEnd
  | _ => none

/-- The kinds of word boundaries that have names. -/
def namedBoundary? : String → Option Assertion
  | "start" => some .wordStart
  | "end" => some .wordEnd
  | "start-half" => some .wordStartHalf
  | "end-half" => some .wordEndHalf
  | _ => none

/-- Reads a name up to a closing brace, blanks left out. `fuel` is at least the length of the
text. -/
def readBoundaryName (extended : Bool) :
    (fuel : Nat) → List Char → Except Fault (List Char × List Char)
  | 0, _ => throw .outOfFuel
  | fuel + 1, text => do
    match ← skipBlanks extended text with
    | '\x7d' :: rest => return ([], rest)
    | c :: rest =>
      let (name, rest) ← readBoundaryName extended fuel rest
      return (c :: name, rest)
    | [] => throw (.unknownEscape 'b')

/-! ## Bounds of repetitions -/

/-- A decimal number at the start of a text. -/
def readDecimal? (text : List Char) : Option (Nat × List Char) :=
  (number? (text.takeWhile Char.isDigit)).map fun number =>
    (number, text.dropWhile Char.isDigit)

/-- Reads the bounds of a counted repetition after its opening brace. A text that does not have
their form is no repetition, and its brace is a literal. -/
def readBounds? (extended : Bool) (text : List Char) :
    Option (Nat × Option Nat × List Char) := do
  let skip text := (skipBlanks extended text).toOption
  let text ← skip text
  let (least, text) ← match text with
    | ',' :: _ => some (0, text)
    | _ => readDecimal? text
  let text ← skip text
  let (most, text) ← match text with
    | '\x7d' :: _ => some (some least, text)
    | ',' :: rest => do
      let rest ← skip rest
      match readDecimal? rest with
      | some (most, rest) => some (if most = maxNumber then none else some most, rest)
      | none => some (none, rest)
    | _ => none
  match ← skip text with
  | '\x7d' :: rest => some (least, most, rest)
  | _ => none

/-- Reads what follows a backslash and the letter of a word boundary. A brace may give a name to the
boundary or bounds to a repetition of it. -/
def readWordBoundary (extended negated : Bool) (text : List Char) :
    Except Fault (Escape × List Char) := do
  let plain : Escape := .assertion (if negated then .notWordBoundary else .wordBoundary)
  match ← skipBlanks extended text with
  | '\x7b' :: inner =>
    if (readBounds? extended inner).isSome then return (plain, text)
    else if negated then throw (.unknownEscape 'B')
    else
      let (name, rest) ← readBoundaryName extended (inner.length + 1) inner
      match namedBoundary? (String.ofList name) with
      | some assertion => return (.assertion assertion, rest)
      | none => throw (.unknownEscape 'b')
  | _ => return (plain, text)

/-! ## Escapes -/

/-- The control character that a letter stands for. -/
def controlChar? : Char → Option Char
  | 'a' => some '\x07'
  | 'f' => some '\x0C'
  | 'n' => some '\n'
  | 'r' => some '\r'
  | 't' => some '\t'
  | 'v' => some '\x0B'
  | 'e' => some '\x1B'
  | _ => none

/-- The set that a letter stands for. -/
def setOf? : Char → Option CharSet
  | 'd' => some .decimal
  | 'D' => some (.complement .decimal)
  | 's' => some .blank
  | 'S' => some (.complement .blank)
  | 'w' => some .word
  | 'W' => some (.complement .word)
  | _ => none

/-- The set of hexadecimal digits, or its complement, with its text inside brackets. -/
def hexSet? : Char → Option (CharSet × List Char)
  | 'h' => some (.hexDigit, "[0-9A-Fa-f]".toList)
  | 'H' => some (.complement .hexDigit, "[^0-9A-Fa-f]".toList)
  | _ => none

/-- Reads an escape that may stand inside and outside brackets, if it is one. -/
def readCharEscape? (extended ignoreCase : Bool) (c : Char) (rest : List Char) :
    Option (Except Fault (Escape × List Char)) :=
  match setOf? c, hexSet? c, controlChar? c with
  | some set, _, _ => some (return (.set set ['\\', c], rest))
  | _, some (set, text), _ => some (return (.set set text, rest))
  | _, _, some d => some (return (.char d false, rest))
  | _, _, _ =>
    match c with
    | 'x' => some (readHex extended 2 rest)
    | 'u' => some (readHex extended 4 rest)
    | 'U' => some (readHex extended 8 rest)
    | 'p' | 'P' => some do
      let (set, after) ← readProperty (c = 'P') ignoreCase rest
      return (.set set ('\\' :: c :: rest.take (rest.length - after.length)), after)
    | _ => none

/-- Reads an escape inside brackets after its backslash. -/
def readClassEscape (extended ignoreCase : Bool) : List Char → Except Fault (Escape × List Char)
  | [] => throw .trailingBackslash
  | c :: rest =>
    match readCharEscape? extended ignoreCase c rest with
    | some result => result
    | none =>
      if c.isDigit then throw .notInClass
      else if c = 'b' then return (.char '\x08' false, rest)
      else if c.isAlpha && !(['k', 'A', 'z', 'B', 'K', 'G'].contains c) then
        throw (.unknownEscape c)
      else return (.char c false, rest)

/-- Reads an escape outside brackets after its backslash. -/
def readEscape (extended ignoreCase : Bool) : List Char → Except Fault (Escape × List Char)
  | [] => throw .trailingBackslash
  | c :: rest =>
    match readCharEscape? extended ignoreCase c rest, assertionOf? c with
    | some result, _ => result
    | none, some assertion => return (.assertion assertion, rest)
    | none, none =>
      if c.isDigit then
        match readDecimal? (c :: rest) with
        | some (number, rest) => return (.group number, rest)
        | none => throw .unknownGroup
      else match c with
        | 'b' => readWordBoundary extended false rest
        | 'B' => readWordBoundary extended true rest
        | 'k' =>
          match rest with
          | '\'' :: _ => readReference '\'' '\'' rest
          | _ => readReference '<' '>' rest
        | 'K' => return (.keepOut, rest)
        | 'O' => return (.set (.anyChar true) [], rest)
        | 'N' => return (.set (.anyChar false) [], rest)
        | _ => if c.isAlpha then throw (.unknownEscape c) else return (.char c false, rest)

end ScopeScanner.Regex
