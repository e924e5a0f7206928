import ArtifactAudit.Encoding.Hex
import ArtifactAudit.Encoding.Utf8

/-!
# Percent-encoding and form encoding

A character is written as it is or as the escapes of its UTF-8 bytes, a percent
sign and two upper-case hexadecimal digits each. Every use names the characters
it keeps.

Reading undoes the escapes. A percent sign that no two hexadecimal digits follow
stands for itself. Escapes are decoded as UTF-8 within each maximal run of ASCII
characters, and characters beyond ASCII are kept, so that neither kind can
complete the other.

Form encoding is the notation of query parameters: `key=value` pairs in which a space
is written `+` and everything else but the unreserved characters is percent-encoded.
-/

set_option autoImplicit false

namespace ArtifactAudit

namespace Percent

/-- Letters, digits and `_ . - ~` of ASCII. -/
def isUnreserved (c : Char) : Bool :=
  c.isAlphanum || c == '_' || c == '.' || c == '-' || c == '~'

def escapeByte (b : UInt8) : List Char :=
  '%' :: Hex.encodeByte b

/-- One character, escaped unless it is kept. -/
def encodeChar (keep : Char → Bool) (c : Char) : List Char :=
  if keep c then [c] else (String.utf8EncodeChar c).flatMap escapeByte

/-- A text with every character escaped that is not kept. -/
def encode (keep : Char → Bool) (s : List Char) : List Char :=
  s.flatMap (encodeChar keep)

/-- The bytes of a run of ASCII characters, escapes undone. -/
def bytes : List Char → List UInt8
  | '%' :: high :: low :: rest =>
    match Hex.decodeByte? high low with
    | some b => b :: bytes rest
    | none => 0x25 :: bytes (high :: low :: rest)
  | c :: rest => UInt8.ofNat c.toNat :: bytes rest
  | [] => []

/-- Whether the character belongs to ASCII. -/
def isAscii (c : Char) : Bool :=
  c.toNat < 0x80

/-- The text with escapes undone, each run of ASCII characters on its own. -/
def decode (s : List Char) : List Char :=
  (s.splitBy fun a b => isAscii a == isAscii b).flatMap fun run =>
    if run.all isAscii then Utf8.decode (bytes run) else run

end Percent

/-! ## Forms -/

namespace Form

/-- A key or a value in form encoding. -/
def encode (s : List Char) : List Char :=
  s.flatMap fun c => if c = ' ' then ['+'] else Percent.encodeChar Percent.isUnreserved c

/-- The text that a form-encoded key or value denotes. -/
def decode (s : List Char) : List Char :=
  Percent.decode (s.map fun c => if c = '+' then ' ' else c)

/-- One parameter in form encoding. -/
def parameter (key value : String) : List Char :=
  encode key.toList ++ '=' :: encode value.toList

end Form

end ArtifactAudit
