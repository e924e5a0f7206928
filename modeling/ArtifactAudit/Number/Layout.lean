import ArtifactAudit.Number.Shortest

/-!
# How numbers are written

A layout says where a decimal is written positionally and where with an
exponent. Durations and other fractional settings are written in the layout
`standard`: positionally from `10 ^ -4` up to below `10 ^ 16`, with `.0` on whole
numbers, and otherwise with a signed exponent of at least two digits.
-/

set_option autoImplicit false

namespace ArtifactAudit.Number

/-- The choices in writing a decimal. -/
structure Layout where
  /-- The least exponent of the first digit that is written positionally. -/
  positionalFrom : Int
  /-- The least greater exponent that is not. -/
  positionalBelow : Int
  /-- What stands after the digits of a whole number. -/
  wholeEnding : List Char
  /-- The least number of digits of a written exponent. -/
  exponentWidth : Nat
  /-- How an infinite number is written. -/
  infinite : List Char
  /-- How a value that is not a number is written. -/
  undefined : List Char

namespace Layout

/-- The layout of fractional values in messages and reports. -/
def standard : Layout where
  positionalFrom := -4
  positionalBelow := 16
  wholeEnding := ['.', '0']
  exponentWidth := 2
  infinite := ['i', 'n', 'f']
  undefined := ['n', 'a', 'n']

/-- The digits without zeros at the end, at least one digit. -/
def significantDigits (d : Decimal) : List Char :=
  let digits := Nat.toDigits 10 d.digits
  match (digits.reverse.dropWhile (· == '0')).reverse with
  | [] => ['0']
  | kept => kept

/-- Digits with the point after the first `point` places. -/
def positional (layout : Layout) (digits : List Char) (point : Int) : List Char :=
  if point ≤ 0 then '0' :: '.' :: List.replicate (-point).toNat '0' ++ digits
  else if digits.length ≤ point.toNat then
    digits ++ List.replicate (point.toNat - digits.length) '0' ++ layout.wholeEnding
  else digits.take point.toNat ++ '.' :: digits.drop point.toNat

/-- Digits with the point after the first one and an exponent. -/
def scientific (layout : Layout) (digits : List Char) (exponent : Int) : List Char :=
  let power := Nat.toDigits 10 exponent.natAbs
  digits.take 1 ++ (if digits.length ≤ 1 then [] else '.' :: digits.drop 1) ++
    ['e', if exponent < 0 then '-' else '+'] ++
    List.replicate (layout.exponentWidth - power.length) '0' ++ power

def decimal (layout : Layout) (d : Decimal) : List Char :=
  let digits := significantDigits d
  let point : Int :=
    if d.digits = 0 then 1 else (Nat.toDigits 10 d.digits).length + d.exponent
  if layout.positionalFrom ≤ point - 1 ∧ point - 1 < layout.positionalBelow then
    layout.positional digits point
  else layout.scientific digits (point - 1)

/-- A floating-point number in the layout, by its shortest decimal. -/
def float (layout : Layout) (x : Float) : List Char :=
  if x.isNaN then layout.undefined
  else
    let size := if x.isInf then layout.infinite else layout.decimal (shortest x)
    if x.toBits ≥ 0x8000000000000000 then '-' :: size else size

end Layout

/-- The text of a fractional value. -/
def text (x : Float) : String :=
  String.ofList (Layout.standard.float x)

end ArtifactAudit.Number
