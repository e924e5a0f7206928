import ArtifactAudit.Number.Nearest

/-!
# The shortest decimal of a floating-point number

A finite positive double is `significand * 2 ^ exponent`. The reals that round to
it form an interval around it, whose ends belong to it exactly when the
significand is even. Its shortest decimal has the fewest digits among the
decimals in that interval and, of those, lies nearest to it; a tie goes to the
even last digit.

For a given number of digits, a decimal of that length in the interval exists
only if one of the number's two neighbours on the decimal grid lies in it, so
those two are tested, for one digit, two digits, and so on up to seventeen.

A double is a whole number exactly if its power of two divides out (`whole?`).
-/

set_option autoImplicit false

namespace ArtifactAudit.Number

/-- A decimal `digits * 10 ^ exponent`. -/
structure Decimal where
  /-- The digits, read as a natural number. -/
  digits : Nat
  /-- The power of ten of the last digit. -/
  exponent : Int
  deriving DecidableEq, Repr

/-- A binary number `significand * 2 ^ exponent`. -/
structure Binary where
  significand : Nat
  /-- The power of two. -/
  exponent : Int
  deriving DecidableEq, Repr

namespace Binary

/-- The finite number whose bits, without the sign, are given. -/
def ofBits (bits : Nat) : Binary :=
  let field : Nat := bits / twoTo 52 % twoTo 11
  let fraction : Nat := bits % twoTo 52
  if field = 0 then ⟨fraction, -1074⟩ else ⟨twoTo 52 + fraction, (field : Int) - 1075⟩

/-- The distance to the lower end of the rounding interval, in quarters of a
unit of the significand: the next number below a power of two is nearer. -/
def gapBelow (x : Binary) : Nat :=
  if x.significand = twoTo 52 ∧ -1074 < x.exponent then 1 else 2

/-- Compares `left * 10 ^ tens` with `right * 2 ^ twos`. -/
def compareScaled (left : Nat) (tens : Int) (right : Nat) (twos : Int) : Ordering :=
  compare (left * tenTo tens.toNat * twoTo (-twos).toNat)
    (right * twoTo twos.toNat * tenTo (-tens).toNat)

/-- Whether the decimal rounds to the number. -/
def holds (x : Binary) (d : Decimal) : Bool :=
  let quarters := 4 * x.significand
  let closed := x.significand % 2 == 0
  let low := compareScaled d.digits d.exponent (quarters - x.gapBelow) (x.exponent - 2)
  let high := compareScaled d.digits d.exponent (quarters + 2) (x.exponent - 2)
  (low == .gt || (closed && low == .eq)) && (high == .lt || (closed && high == .eq))

/-- The numerator and denominator of the number. -/
def ratio (x : Binary) : Nat × Nat :=
  (x.significand * twoTo x.exponent.toNat, twoTo (-x.exponent).toNat)

/-- The position of the point: the least power of ten above the number. -/
def pointPosition (x : Binary) : Int :=
  let (numerator, denominator) := x.ratio
  if denominator ≤ numerator then (Nat.toDigits 10 (numerator / denominator)).length
  else
    let length := (Nat.toDigits 10 (denominator / numerator)).length
    if denominator ≤ tenTo (length - 1) * numerator then 2 - (length : Int) else 1 - (length : Int)

/-- The greatest multiple of `10 ^ exponent` that does not exceed the number. -/
def floorAt (x : Binary) (exponent : Int) : Nat :=
  let (numerator, denominator) := x.ratio
  numerator * tenTo (-exponent).toNat / (denominator * tenTo exponent.toNat)

/-- Whether the grid point above the number is nearer to it than the one below,
or as near and even. -/
def prefersAbove (x : Binary) (below : Nat) (exponent : Int) : Bool :=
  match compareScaled (2 * below + 1) exponent (2 * x.significand) x.exponent with
  | .lt => true
  | .eq => below % 2 == 1
  | .gt => false

/-- A decimal of `length` digits that rounds to the number, the nearest if there
are two. -/
def decimalOf? (x : Binary) (length : Nat) : Option Decimal :=
  let exponent := x.pointPosition - length
  let below := x.floorAt exponent
  let candidates : List Decimal :=
    if x.prefersAbove below exponent then [⟨below + 1, exponent⟩, ⟨below, exponent⟩]
    else [⟨below, exponent⟩, ⟨below + 1, exponent⟩]
  candidates.find? x.holds

/-- The shortest decimal that rounds to the number. Seventeen digits always
suffice. -/
def shortest (x : Binary) : Decimal :=
  ((List.range 17).findSome? fun index => x.decimalOf? (index + 1)).getD
    ⟨x.floorAt (x.pointPosition - 17), x.pointPosition - 17⟩

end Binary

/-- The shortest decimal of the absolute value of a finite number. -/
def shortest (x : Float) : Decimal :=
  let bits := x.toBits.toNat % twoTo 63
  if bits = 0 then ⟨0, 0⟩ else (Binary.ofBits bits).shortest

/-! ## Whole numbers -/

/-- The size of a binary number, if it is whole. -/
def Binary.whole? (x : Binary) : Option Nat :=
  let (numerator, denominator) := x.ratio
  if numerator % denominator = 0 then some (numerator / denominator) else none

/-- The whole number that a double is equal to. -/
def whole? (x : Float) : Option Int :=
  if x.isFinite then
    (Binary.ofBits x.abs.toBits.toNat).whole?.map fun size =>
      if x < 0 then -(size : Int) else size
  else none

/-- Whether the number fits into a word of 64 bits, sign included. -/
def fitsWord (n : Int) : Bool :=
  -(twoTo 63 : Int) ≤ n && n < twoTo 63

end ArtifactAudit.Number
