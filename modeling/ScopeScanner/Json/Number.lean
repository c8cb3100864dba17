import ScopeScanner.Decimal.Double

/-!
# Numbers in JSON

A number in a text is refused when it is too large for a double. How large that is follows from how
doubles are computed here: of the significand only the digits that fit into 64 bits count, and the
double nearest to it is multiplied by the double nearest to the power of ten. The product may
overflow where the number itself would not.
-/

namespace ScopeScanner.Json

/-- A significand of 64 bits and an exponent of ten. -/
structure Scaled where
  significand : Nat := 0
  exponent : Int := 0

/-- The largest significand. -/
def maxSignificand : Nat := 18446744073709551615

/-- Appends digits to the significand as long as it can hold them. Each digit that is taken adds
`taken` to the exponent, and each one that is left out adds `dropped`. -/
def Scaled.append (taken dropped : Int) : List Char → Scaled → Scaled
  | [], number => number
  | c :: rest, number =>
    let significand := number.significand * 10 + (c.toNat - '0'.toNat)
    if maxSignificand < significand then
      { number with exponent := number.exponent + dropped * (rest.length + 1) }
    else Scaled.append taken dropped rest ⟨significand, number.exponent + taken⟩

/-- The significand and the exponent of a number without a sign. -/
def Scaled.ofText (unsigned : List Char) : Scaled :=
  let (digits, places, exponent) := Double.decimalParts unsigned
  let whole := digits.take (digits.length - places)
  let number := Scaled.append (-1) 0 (digits.drop whole.length) (Scaled.append 0 1 whole {})
  { number with exponent := number.exponent + exponent }

/-- The largest exponent of ten that a double can be multiplied by at once. -/
def maxPower : Nat := 308

/-- A product from here on rounds to infinity: it is at least halfway between the largest double and
the power of two that follows it. -/
def overflowBound : Nat := Nat.pow 2 1024 - Nat.pow 2 970

/-- Whether the product of two doubles rounds to infinity. -/
def productOverflows : Double → Double → Bool
  | .finite _ a i, .finite _ b j =>
    if i + j < 0 then overflowBound * Nat.pow 2 (i + j).natAbs ≤ a * b
    else overflowBound ≤ a * b * Nat.pow 2 (i + j).natAbs
  | _, _ => true

/-- Whether a number is too large. -/
def outOfRange (literal : String) : Bool :=
  let unsigned := match literal.toList with
    | '-' :: rest => rest
    | chars => chars
  let number := Scaled.ofText unsigned
  if number.significand = 0 || number.exponent < 0 then false
  else if maxPower < number.exponent then true
  else productOverflows (.ofDecimal false number.significand 0)
    (.ofDecimal false 1 number.exponent)

end ScopeScanner.Json
