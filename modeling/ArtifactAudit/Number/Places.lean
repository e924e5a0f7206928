import ArtifactAudit.Number.Nearest
import ArtifactAudit.Number.Shortest

/-!
# Numbers with a given number of places

A double is written with a number of places after the point, positionally or with
an exponent. The last place is rounded from the exact value, a half to the even
digit.
-/

set_option autoImplicit false

namespace ArtifactAudit.Number

/-- The ways to write a number with places. -/
inductive PlacesForm where
  /-- Positionally. -/
  | fixed
  /-- With an exponent. -/
  | exponential
  /-- With as many significant digits, in the shorter of the two ways. -/
  | general
  deriving DecidableEq, Repr

/-- Digits with a point before the last `places` ones. The point stays at the end
only if it is wanted. -/
def pointBefore (places : Nat) (keepsPoint : Bool) (digits : List Char) : List Char :=
  let padded := List.replicate (places + 1 - digits.length) '0' ++ digits
  let front := padded.take (padded.length - places)
  if places = 0 then if keepsPoint then front ++ ['.'] else front
  else front ++ '.' :: padded.drop (padded.length - places)

/-- A quotient with places after the point. -/
def fixedPlaces (places : Nat) (keepsPoint : Bool) (numerator denominator : Nat) : List Char :=
  pointBefore places keepsPoint
    (Nat.toDigits 10 (roundedQuotient (numerator * tenTo places) denominator))

/-- A quotient as digits, `places` of them after the first one, and the exponent of
the first one. `position` is that of the point. -/
def digitsAt (places : Nat) (position : Int) (numerator denominator : Nat) : List Char × Int :=
  let shift : Int := places + 1 - position
  let digits := Nat.toDigits 10
    (roundedQuotient (numerator * tenTo shift.toNat) (denominator * tenTo (-shift).toNat))
  if places + 1 < digits.length then (digits.take (places + 1), position)
  else (digits, position - 1)

/-- An exponent behind its mark. -/
def exponentText (exponent : Int) : List Char :=
  let digits := Nat.toDigits 10 exponent.natAbs
  ['e', if exponent < 0 then '-' else '+'] ++ List.replicate (2 - digits.length) '0' ++ digits

/-- Digits without the zeros at the end of a fraction, and without a point at the
end. -/
def withoutFinalZeros (digits : List Char) : List Char :=
  if digits.contains '.' then
    let kept := digits.reverse.dropWhile (· == '0')
    (if kept.head? = some '.' then kept.drop 1 else kept).reverse
  else digits

/-- The size of a double with places in a form. `alternate` keeps a point at the
end, and zeros in the general form. -/
def withPlaces (form : PlacesForm) (places : Nat) (alternate : Bool) (x : Float) : List Char :=
  let bits := x.toBits.toNat % twoTo 63
  if x.isNaN then ['n', 'a', 'n']
  else if x.isInf then ['i', 'n', 'f']
  else
    let binary := Binary.ofBits bits
    let (numerator, denominator) := binary.ratio
    let first (places : Nat) : List Char × Int :=
      if bits = 0 then (List.replicate (places + 1) '0', 0)
      else digitsAt places binary.pointPosition numerator denominator
    match form with
    | .fixed => fixedPlaces places alternate numerator denominator
    | .exponential =>
      let (digits, exponent) := first places
      pointBefore places alternate digits ++ exponentText exponent
    | .general =>
      let significant := max places 1
      let (digits, exponent) := first (significant - 1)
      let trim (s : List Char) : List Char := if alternate then s else withoutFinalZeros s
      if -4 ≤ exponent ∧ exponent < significant then
        trim (fixedPlaces (significant - 1 - exponent).toNat alternate numerator denominator)
      else trim (pointBefore (significant - 1) alternate digits) ++ exponentText exponent

end ArtifactAudit.Number
