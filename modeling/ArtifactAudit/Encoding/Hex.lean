import ArtifactAudit.Text.Digit

/-!
# Bytes in hexadecimal digits

Each byte is written as two digits. Digits of either case are read, and what is written
can be read (`decodeByte?_digits`).
-/

set_option autoImplicit false

namespace ArtifactAudit.Hex

/-- The digits of a byte. -/
def encodeByte (b : UInt8) : List Char :=
  [Text.hexDigit (b.toNat / 16), Text.hexDigit (b.toNat % 16)]

/-- The digits of some bytes. -/
def encode (bytes : List UInt8) : List Char :=
  bytes.flatMap encodeByte

/-- The byte that two digits denote. -/
def decodeByte? (high low : Char) : Option UInt8 :=
  match Text.hexValue? high, Text.hexValue? low with
  | some h, some l => some (UInt8.ofNat (16 * h + l))
  | _, _ => none

/-- The bytes that digits denote, if every byte has two. -/
def decode? : List Char → Option (List UInt8)
  | [] => some []
  | [_] => none
  | high :: low :: rest =>
    match decodeByte? high low with
    | some b => (decode? rest).map (b :: ·)
    | none => none

theorem decodeByte?_digits (b : UInt8) :
    decodeByte? (Text.hexDigit (b.toNat / 16)) (Text.hexDigit (b.toNat % 16)) = some b := by
  have bound := b.toNat_lt
  have high : b.toNat / 16 < 16 := by omega
  have low : b.toNat % 16 < 16 := by omega
  have whole : 16 * (b.toNat / 16) + b.toNat % 16 = b.toNat := by omega
  simp [decodeByte?, Text.hexValue?_hexDigit high, Text.hexValue?_hexDigit low, whole]

end ArtifactAudit.Hex
