import ScopeScanner.Decimal.Shortest

/-!
# Values of settings

What settings files and overrides hold. A value of one kind is converted to another where that makes
sense: texts that spell a truth value or a number count as such, truth values count as zero and one,
and every single value has a text.
-/

namespace ScopeScanner

/-- A value in a settings file. -/
inductive Value where
  | null
  | bool (value : Bool)
  | integer (value : Int)
  | fraction (value : Double)
  | text (value : String)
  | array (items : List Value)
  | table (entries : List (String × Value))
deriving Inhabited

namespace Value

/-- A text in lower case, as far as its letters are ASCII. -/
def lower (text : String) : String :=
  String.ofList (text.toList.map Char.toLower)

/-- The truth value that a word stands for. -/
def word? (text : String) : Option Bool :=
  match lower text with
  | "true" | "on" | "yes" => some true
  | "false" | "off" | "no" => some false
  | _ => none

/-- The largest number that a setting can have. -/
def maxNumber : Nat := Nat.pow 2 64 - 1

/-- The number that decimal digits stand for, with a plus sign in front or without. -/
def digits? (text : String) : Option Nat :=
  let unsigned := match text.toList with
    | '+' :: rest => rest
    | chars => chars
  if unsigned.isEmpty || !unsigned.all Char.isDigit then none
  else
    let value := unsigned.foldl (fun n c => n * 10 + (c.toNat - '0'.toNat)) 0
    if value ≤ maxNumber then some value else none

/-- The value as a number. -/
def number? : Value → Option Nat
  | integer value => if 0 ≤ value then some value.toNat else none
  | fraction value => some (value.roundWithin maxNumber)
  | bool value => some value.toNat
  | text value =>
    match word? value with
    | some word => some word.toNat
    | none => digits? value
  | null | array _ | table _ => none

/-- The value as a truth value. -/
def truth? : Value → Option Bool
  | bool value => some value
  | integer value => some (value ≠ 0)
  | fraction value => some (!value.isZero)
  | text value =>
    if value = "1" then some true
    else if value = "0" then some false
    else word? value
  | null | array _ | table _ => none

/-- The value as a text. -/
def text? : Value → Option String
  | text value => some value
  | bool true => some "true"
  | bool false => some "false"
  | integer value =>
    let unsigned := Nat.toDigits 10 value.natAbs
    some (String.ofList (if value < 0 then '-' :: unsigned else unsigned))
  | fraction value => some value.text
  | null | array _ | table _ => none

end Value

end ScopeScanner
