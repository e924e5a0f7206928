import ArtifactAudit.Encoding.Utf8

/-!
# UTF-16 and UTF-32

A text in UTF-16 is a sequence of units of two bytes. A character beyond the first
plane takes a pair of units, a high and a low half. Half a pair that stands alone
and whatever is left over at the end are replaced.

In UTF-32 every character takes two units. A number that is no character's and
whatever is left over at the end are replaced.
-/

set_option autoImplicit false

namespace ArtifactAudit.Utf16

/-- The order of the two bytes of a unit. -/
inductive ByteOrder where
  /-- The high byte comes first. -/
  | bigEndian
  /-- The low byte comes first. -/
  | littleEndian
  deriving DecidableEq, Repr

/-- The unit of two bytes. -/
def ByteOrder.unit (order : ByteOrder) (first second : UInt8) : Nat :=
  match order with
  | bigEndian => 0x100 * first.toNat + second.toNat
  | littleEndian => 0x100 * second.toNat + first.toNat

/-- Whether the unit is the high half of a pair. -/
def isHigh (unit : Nat) : Bool :=
  0xD800 ≤ unit && unit ≤ 0xDBFF

/-- Whether the unit is the low half of a pair. -/
def isLow (unit : Nat) : Bool :=
  0xDC00 ≤ unit && unit ≤ 0xDFFF

/-- The text of bytes. -/
def decode (order : ByteOrder) : List UInt8 → List Char
  | [] => []
  | [_] => [Utf8.replacement]
  | a :: b :: rest =>
    let unit := order.unit a b
    if isHigh unit then
      match rest with
      | c :: d :: others =>
        let next := order.unit c d
        if isLow next then
          Char.ofNat (0x10000 + 0x400 * (unit - 0xD800) + (next - 0xDC00)) :: decode order others
        else Utf8.replacement :: decode order (c :: d :: others)
      | _ => [Utf8.replacement]
    else if isLow unit then Utf8.replacement :: decode order rest
    else Char.ofNat unit :: decode order rest

/-- The byte order that the mark in front of a text announces, and what follows
the mark. -/
def marked? : List UInt8 → Option (ByteOrder × List UInt8)
  | 0xFE :: 0xFF :: rest => some (.bigEndian, rest)
  | 0xFF :: 0xFE :: rest => some (.littleEndian, rest)
  | _ => none

end ArtifactAudit.Utf16

namespace ArtifactAudit.Utf32

/-- The number of two units. -/
def number (order : Utf16.ByteOrder) (first second : Nat) : Nat :=
  match order with
  | .bigEndian => 0x10000 * first + second
  | .littleEndian => 0x10000 * second + first

/-- The text of bytes. -/
def decode (order : Utf16.ByteOrder) : List UInt8 → List Char
  | [] => []
  | a :: b :: c :: d :: rest =>
    let code := number order (order.unit a b) (order.unit c d)
    (if code.isValidChar then Char.ofNat code else Utf8.replacement) :: decode order rest
  | _ => [Utf8.replacement]

/-- The byte order that the mark in front of a text announces, and what follows
the mark. -/
def marked? : List UInt8 → Option (Utf16.ByteOrder × List UInt8)
  | 0x00 :: 0x00 :: 0xFE :: 0xFF :: rest => some (.bigEndian, rest)
  | 0xFF :: 0xFE :: 0x00 :: 0x00 :: rest => some (.littleEndian, rest)
  | _ => none

end ArtifactAudit.Utf32
