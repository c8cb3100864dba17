import ScopeScanner.Settings.Value
import ScopeScanner.Toml.Text

/-!
# Numbers and dates in TOML

Values that are not in quotes. Digits may be grouped by underscores between them, whole numbers must
fit into 64 bits, and dates and times are kept as texts.
-/

namespace ScopeScanner.Toml

/-- Whether a character may be part of a value that is not in quotes. -/
def isWordChar (c : Char) : Bool :=
  c.isAlphanum || c = '+' || c = '-' || c = '_' || c = '.' || c = ':'

/-- Digits without the underscores between them. Underscores must stand between two digits. -/
def ungroup? (isDigit : Char → Bool) : List Char → Option (List Char)
  | [] => none
  | [c] => if isDigit c then some [c] else none
  | c :: '_' :: rest => if isDigit c then (ungroup? isDigit rest).map (c :: ·) else none
  | c :: rest => if isDigit c then (ungroup? isDigit rest).map (c :: ·) else none

/-- The value of digits in a radix. -/
def digitsValue (radix : Nat) (digits : List Char) : Nat :=
  digits.foldl (fun value c => value * radix + (Json.hexDigit? c).getD 0) 0

/-- The number written by grouped digits in a radix. -/
def grouped? (radix : Nat) (text : List Char) : Option Nat :=
  (ungroup? (fun c => (Json.hexDigit? c).any (· < radix)) text).map (digitsValue radix)

/-- A text without the sign in front of it, and whether the sign is a minus. -/
def splitSign (text : List Char) : Bool × List Char :=
  match text with
  | '+' :: rest => (false, rest)
  | '-' :: rest => (true, rest)
  | _ => (false, text)

/-- Whether decimal digits start with a zero that is not the only one. -/
def isPadded (text : List Char) : Bool :=
  match text with
  | '0' :: _ :: _ => true
  | _ => false

/-- The whole number that a text stands for. -/
def integer? (text : List Char) : Option Int := do
  let value ← match text with
    | '0' :: 'x' :: digits => (grouped? 16 digits).map Int.ofNat
    | '0' :: 'o' :: digits => (grouped? 8 digits).map Int.ofNat
    | '0' :: 'b' :: digits => (grouped? 2 digits).map Int.ofNat
    | _ =>
      let (negative, unsigned) := splitSign text
      if isPadded unsigned then none
      else (grouped? 10 unsigned).map fun value => if negative then -(value : Int) else value
  let bound : Int := Nat.pow 2 63
  if -bound ≤ value && value < bound then some value else none

/-- The number with a fraction that a text stands for. -/
def fraction? (text : List Char) : Option Double := do
  let (negative, unsigned) := splitSign text
  if unsigned = ['i', 'n', 'f'] then return .infinite negative
  if unsigned = ['n', 'a', 'n'] then return .undefined
  let isMark (c : Char) := c = 'e' || c = 'E'
  let mantissa := unsigned.takeWhile (!isMark ·)
  let exponent ← match unsigned.dropWhile (!isMark ·) with
    | [] => some 0
    | _ :: rest =>
      let (down, digits) := splitSign rest
      (grouped? 10 digits).map fun value => if down then -(value : Int) else value
  let whole := mantissa.takeWhile (· ≠ '.')
  if isPadded whole then none
  let wholeDigits ← ungroup? Char.isDigit whole
  let places ← match mantissa.dropWhile (· ≠ '.') with
    | [] => some []
    | _ :: rest => ungroup? Char.isDigit rest
  let value := Double.ofDecimal negative (digitsValue 10 (wholeDigits ++ places))
    (exponent - places.length)
  if value = .infinite false then none else some value

/-- The number written by exactly `count` digits at the start of a text. -/
def fixedDigits? (count : Nat) (text : List Char) : Option (Nat × List Char) :=
  let digits := text.take count
  if digits.length = count && digits.all Char.isDigit then
    some (digitsValue 10 digits, text.drop count)
  else none

/-- A number with two digits. -/
def twoDigits (value : Nat) : List Char :=
  (if value < 10 then ['0'] else []) ++ Nat.toDigits 10 value

/-- Number of days of a month. -/
def daysIn (year month : Nat) : Nat :=
  let leap := (year % 4 = 0 && year % 100 ≠ 0) || year % 400 = 0
  if month = 2 then if leap then 29 else 28
  else if [4, 6, 9, 11].contains month then 30
  else 31

/-- Reads a date and checks that there is such a day. -/
def date? (text : List Char) : Option (List Char × List Char) := do
  let (year, rest) ← fixedDigits? 4 text
  let (month, rest) ← match rest with
    | '-' :: rest => fixedDigits? 2 rest
    | _ => none
  let (day, rest) ← match rest with
    | '-' :: rest => fixedDigits? 2 rest
    | _ => none
  if month = 0 || 12 < month || day = 0 || daysIn year month < day then none
  return (text.take 10, rest)

/-- Reads a time of day. Of its fraction nine digits count, without zeros at the end. -/
def time? (text : List Char) : Option (List Char × List Char) := do
  let (hour, rest) ← fixedDigits? 2 text
  let (minute, rest) ← match rest with
    | ':' :: rest => fixedDigits? 2 rest
    | _ => none
  let (second, rest) ← match rest with
    | ':' :: rest => fixedDigits? 2 rest
    | _ => none
  if 23 < hour || 59 < minute || 60 < second then none
  match rest with
  | '.' :: rest =>
    let digits := rest.takeWhile Char.isDigit
    if digits.isEmpty then none
    let kept := ((digits.take 9).reverse.dropWhile (· = '0')).reverse
    return (text.take 8 ++ (if kept.isEmpty then [] else '.' :: kept), rest.dropWhile Char.isDigit)
  | _ => return (text.take 8, rest)

/-- Reads the distance from universal time, which may be left out. -/
def offset? (text : List Char) : Option (List Char) :=
  match text with
  | [] => some []
  | ['Z'] | ['z'] => some ['Z']
  | sign :: rest => do
    if sign ≠ '+' && sign ≠ '-' then none
    let (hour, rest) ← fixedDigits? 2 rest
    let (minute, rest) ← match rest with
      | ':' :: rest => fixedDigits? 2 rest
      | _ => none
    if 23 < hour || 59 < minute || !rest.isEmpty then none
    let sign := if hour = 0 && minute = 0 then '+' else sign
    return sign :: twoDigits hour ++ ':' :: twoDigits minute

/-- The date and time that a text stands for, in its normal form. -/
def moment? (text : List Char) : Option String :=
  match date? text with
  | some (date, []) => some (String.ofList date)
  | some (date, c :: rest) => do
    if c ≠ 'T' && c ≠ 't' && c ≠ ' ' then none
    let (time, rest) ← time? rest
    return String.ofList (date ++ 'T' :: time ++ (← offset? rest))
  | none =>
    match time? text with
    | some (time, []) => some (String.ofList time)
    | _ => none

/-- The value that a word stands for. -/
def wordValue? (word : List Char) : Option Value :=
  if word = ['t', 'r', 'u', 'e'] then some (.bool true)
  else if word = ['f', 'a', 'l', 's', 'e'] then some (.bool false)
  else match integer? word, fraction? word, moment? word with
    | some value, _, _ => some (.integer value)
    | none, some value, _ => some (.fraction value)
    | none, none, some value => some (.text value)
    | none, none, none => none

/-- Reads a value that is not in quotes. A time may be separated from its date by a blank. -/
def readWord : Reader Value := fun text =>
  let word := text.takeWhile isWordChar
  let rest := text.dropWhile isWordChar
  let (word, rest) := match date? word, rest with
    | some (_, []), ' ' :: c :: more =>
      if c.isDigit then
        (word ++ ' ' :: (c :: more).takeWhile isWordChar, (c :: more).dropWhile isWordChar)
      else (word, rest)
    | _, _ => (word, rest)
  (wordValue? word).map fun value => (value, rest)

end ScopeScanner.Toml
