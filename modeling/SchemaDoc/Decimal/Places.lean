import SchemaDoc.Decimal.Double

/-!
Contract: finite numbers rounded to decimal places or to significant digits.

Rounding starts from the exact value; a tie goes to the even digit.
-/

namespace SchemaDoc.Double

/-- The quotient in units of `10 ^ power`, rounded. -/
def roundRatio (numerator denominator : Nat) (power : Int) : Nat :=
  roundQuotient (numerator * Nat.pow 10 (-power).toNat) (denominator * Nat.pow 10 power.toNat)

/-- A numerator and a denominator of a finite number's size. -/
def sizeRatio (mantissa : Nat) (exponent : Int) : Nat × Nat :=
  (mantissa * Nat.pow 2 exponent.toNat, Nat.pow 2 (-exponent).toNat)

/-- The power of ten of the first digit of a quotient that is not zero. -/
def leadingPower (numerator denominator : Nat) : Int :=
  let guess : Int := Int.ofNat (Nat.toDigits 10 numerator).length -
    Int.ofNat (Nat.toDigits 10 denominator).length
  if numerator * Nat.pow 10 (-guess).toNat < denominator * Nat.pow 10 guess.toNat then guess - 1
  else guess

/-- The quotient rounded to a number of significant digits: the digits, and the power of ten of
the first one. -/
def significant (count numerator denominator : Nat) : Nat × Int :=
  if numerator = 0 then (0, 0)
  else
    let lead := leadingPower numerator denominator
    let digits := roundRatio numerator denominator (lead - Int.ofNat count + 1)
    if digits = Nat.pow 10 count then (Nat.pow 10 (count - 1), lead + 1) else (digits, lead)

end SchemaDoc.Double
