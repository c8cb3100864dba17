import ScopeScanner.Decimal.Double

/-!
# Shortest decimal texts

A number with a fraction is written with the fewest digits that are read back as the same number,
and among those with the ones nearest to it. No exponent is ever written.
-/

namespace ScopeScanner.Double

/-- A number and the ends of the interval that is rounded to it, in quarters of the distance to the
next number. -/
structure Interval where
  low : Nat
  middle : Nat
  high : Nat
  /-- Whether the ends are rounded to the number as well. -/
  closed : Bool
  /-- The power of two they are multiplied by. -/
  exponent : Int

/-- The interval that is rounded to a number. -/
def interval (significand : Nat) (exponent : Int) : Interval where
  low := if significand = Nat.pow 2 52 && minExponent < exponent then 4 * significand - 1
    else 4 * significand - 2
  middle := 4 * significand
  high := 4 * significand + 2
  closed := significand % 2 = 0
  exponent := exponent - 2

/-- What the parts of an interval and multiples of `10 ^ place` have to be multiplied by for a
comparison. -/
def factors (exponent place : Int) : Nat × Nat :=
  (Nat.pow 2 exponent.toNat * Nat.pow 10 (-place).toNat,
    Nat.pow 10 place.toNat * Nat.pow 2 (-exponent).toNat)

/-- The multiple of `10 ^ place` inside an interval that is nearest to the number, if there is one
next to it. -/
def nearest? (range : Interval) (place : Int) : Option Nat :=
  let (binary, decimal) := factors range.exponent place
  let middle := range.middle * binary
  let inside (count : Nat) :=
    let value := count * decimal
    if range.closed then range.low * binary ≤ value && value ≤ range.high * binary
    else range.low * binary < value && value < range.high * binary
  let below := middle / decimal
  let above := below + 1
  match inside below, inside above with
  | true, true =>
    if middle - below * decimal ≤ above * decimal - middle then some below else some above
  | true, false => some below
  | false, true => some above
  | false, false => none

/-- The place of the first digit: the largest power of ten that does not exceed the number, looked
for downwards from `place`. -/
def leadingPlace (range : Interval) : (fuel : Nat) → (place : Int) → Int
  | 0, place => place
  | fuel + 1, place =>
    let (binary, decimal) := factors range.exponent place
    if decimal ≤ range.middle * binary then place else leadingPlace range fuel (place - 1)

/-- The fewest digits, tried from `place` downwards: a whole number and the power of ten it is
multiplied by. Seventeen digits are always enough. -/
def fewestDigits (range : Interval) : (fuel : Nat) → (place : Int) → Nat × Int
  | 0, place => (range.middle * (factors range.exponent place).1, place)
  | fuel + 1, place =>
    match nearest? range place with
    | some digits => if digits = 0 then fewestDigits range fuel (place - 1) else (digits, place)
    | none => fewestDigits range fuel (place - 1)

/-- Digits with the point where it belongs. -/
def positional (digits : List Char) (place : Int) : List Char :=
  if 0 ≤ place then digits ++ List.replicate place.toNat '0'
  else
    let places := (-place).toNat
    if places < digits.length then
      digits.take (digits.length - places) ++ '.' :: digits.drop (digits.length - places)
    else '0' :: '.' :: (List.replicate (places - digits.length) '0' ++ digits)

/-- The text of a number. -/
def text : Double → String
  | undefined => "NaN"
  | infinite negative => if negative then "-inf" else "inf"
  | finite negative significand exponent =>
    let unsigned :=
      if significand = 0 then ['0']
      else
        let range := interval significand exponent
        let (digits, place) := fewestDigits range 18 (leadingPlace range 640 309)
        let all := Nat.toDigits 10 digits
        let zeros := (all.reverse.takeWhile (· = '0')).length
        positional (all.take (all.length - zeros)) (place + zeros)
    String.ofList (if negative then '-' :: unsigned else unsigned)

end ScopeScanner.Double
