/-!
# Binary fractions

Numbers of the form `significand * 2 ^ exponent` with a significand below `2 ^ 53`, which is how
numbers with a fraction are kept. A decimal number is rounded to the nearest one, and to the one with
an even significand if two are equally near.
-/

namespace ScopeScanner

/-- A number with a fraction. -/
inductive Double where
  /-- A sign, and `significand * 2 ^ exponent`. -/
  | finite (negative : Bool) (significand : Nat) (exponent : Int)
  | infinite (negative : Bool)
  | undefined
deriving DecidableEq, Repr

namespace Double

/-- A quotient, rounded to the nearest whole number and half to the even one. -/
def roundDiv (numerator denominator : Nat) : Nat :=
  let quotient := numerator / denominator
  let remainder := 2 * (numerator % denominator)
  if denominator < remainder || (remainder = denominator && quotient % 2 = 1) then quotient + 1
  else quotient

/-- The smallest exponent. -/
def minExponent : Int := -1074

/-- The largest exponent. -/
def maxExponent : Int := 971

/-- The quotient of two numbers after the first one has been divided by a power of two. -/
def scaled (numerator denominator : Nat) (exponent : Int) : Nat × Nat :=
  if exponent < 0 then (numerator * Nat.pow 2 exponent.natAbs, denominator)
  else (numerator, denominator * Nat.pow 2 exponent.natAbs)

/-- The number nearest to a quotient. -/
def ofRatio (negative : Bool) (numerator denominator : Nat) : Double :=
  let guess := max ((numerator.log2 : Int) - denominator.log2 - 53) minExponent
  let (n, d) := scaled numerator denominator guess
  let exponent := if Nat.pow 2 53 ≤ n / d then guess + 1 else guess
  let (n, d) := scaled numerator denominator exponent
  let significand := roundDiv n d
  let (significand, exponent) :=
    if significand = Nat.pow 2 53 then (Nat.pow 2 52, exponent + 1) else (significand, exponent)
  if maxExponent < exponent then infinite negative else finite negative significand exponent

/-- The number nearest to `digits * 10 ^ exponent`. -/
def ofDecimal (negative : Bool) (digits : Nat) (exponent : Int) : Double :=
  let size := ((Nat.toDigits 10 digits).length : Int) + exponent
  if digits = 0 || size < -330 then finite negative 0 minExponent
  else if 310 < size then infinite negative
  else if exponent < 0 then ofRatio negative digits (Nat.pow 10 exponent.natAbs)
  else ofRatio negative (digits * Nat.pow 10 exponent.natAbs) 1

/-- Splits a number without a sign into the digits of its significand, the number of those after the
point, and the exponent. -/
def decimalParts (unsigned : List Char) : List Char × Nat × Int :=
  let isMark (c : Char) := c = 'e' || c = 'E'
  let mantissa := unsigned.takeWhile (!isMark ·)
  let value (digits : List Char) : Nat :=
    digits.foldl (fun n c => n * 10 + (c.toNat - '0'.toNat)) 0
  let exponent : Int := match (unsigned.dropWhile (!isMark ·)).drop 1 with
    | '-' :: rest => -(value rest : Int)
    | '+' :: rest => value rest
    | rest => value rest
  (mantissa.filter Char.isDigit, (mantissa.dropWhile (· != '.')).length - 1, exponent)

/-- The number nearest to one written in decimal digits, with a minus, a point and an exponent if
need be. -/
def ofText (literal : List Char) : Double :=
  let negative := literal.head? = some '-'
  let (digits, places, exponent) := decimalParts (if negative then literal.drop 1 else literal)
  ofDecimal negative (digits.foldl (fun n c => n * 10 + (c.toNat - '0'.toNat)) 0) (exponent - places)

/-- Whether the number is zero. -/
def isZero : Double → Bool
  | finite _ significand _ => significand = 0
  | _ => false

/-- The nearest whole number that is not negative and does not exceed `largest`, half being rounded
up. What is no number counts as zero. -/
def roundWithin (largest : Nat) : Double → Nat
  | finite true _ _ | infinite true | undefined => 0
  | infinite false => largest
  | finite false significand exponent =>
    let rounded :=
      if exponent < 0 then
        (2 * significand + Nat.pow 2 exponent.natAbs) / Nat.pow 2 (exponent.natAbs + 1)
      else significand * Nat.pow 2 exponent.natAbs
    min rounded largest

end Double

end ScopeScanner
