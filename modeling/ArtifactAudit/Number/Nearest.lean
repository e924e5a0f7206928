/-!
# The nearest floating-point number

A decimal is read as the double nearest to it, a tie going to the even
significand. The quotient is formed in exact arithmetic and rounded once: binary and
decimal numbers are compared by scaling with powers of their bases.
-/

set_option autoImplicit false

namespace ArtifactAudit.Number

/-- A power of two. -/
def twoTo (n : Nat) : Nat := Nat.pow 2 n

/-- A power of ten. -/
def tenTo (n : Nat) : Nat := Nat.pow 10 n

/-- A quotient rounded to the nearest natural number, a half to the even one. -/
def roundedQuotient (numerator denominator : Nat) : Nat :=
  let quotient := numerator / denominator
  let twice := 2 * (numerator % denominator)
  if denominator < twice ∨ (twice = denominator ∧ quotient % 2 = 1) then quotient + 1 else quotient

/-- The bits of the double nearest to a positive quotient. The exponent is
chosen so that the rounded significand has 53 bits, or the least exponent of
all; a significand that rounds up to 54 bits carries into the exponent field. -/
def nearestBits (numerator denominator : Nat) : Nat :=
  let guess : Int := (Nat.log2 numerator : Int) - (Nat.log2 denominator : Int) - 52
  let isBelow (exponent : Int) : Bool :=
    numerator * twoTo (-exponent).toNat < denominator * twoTo exponent.toNat * twoTo 52
  let exponent : Int := max (if isBelow guess then guess - 1 else guess) (-1074)
  let significand :=
    roundedQuotient (numerator * twoTo (-exponent).toNat) (denominator * twoTo exponent.toNat)
  min ((exponent + 1074).toNat * twoTo 52 + significand) (0x7FF * twoTo 52)

/-- The double nearest to `digits * 10 ^ exponent`. Numbers far outside the range
of doubles are settled by the length of their digits alone. -/
def nearest (digits : Nat) (exponent : Int) : Float :=
  let magnitude : Int := (Nat.log2 digits : Int) * 30103 / 100000 + exponent
  if digits = 0 ∨ magnitude < -340 then 0
  else if 320 < magnitude then Float.ofBits 0x7FF0000000000000
  else
    let bits := nearestBits (digits * tenTo exponent.toNat) (tenTo (-exponent).toNat)
    Float.ofBits (UInt64.ofNat bits)

end ArtifactAudit.Number
