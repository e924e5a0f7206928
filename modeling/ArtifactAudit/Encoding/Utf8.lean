/-!
# UTF-8

Encoding is total. Decoding replaces: each maximal prefix of a well-formed
sequence that is not continued becomes one U+FFFD, and so does each byte that
begins no sequence. The decoder is a machine that takes one byte at a time, so
no byte string makes it fail, and a byte it cannot use to go on is read afresh.

`decode?` is the strict reading: it accepts exactly the byte strings that
encode some text.
-/

set_option autoImplicit false

namespace ArtifactAudit.Utf8

/-- The bytes of a text. -/
def encode (s : List Char) : List UInt8 :=
  s.flatMap String.utf8EncodeChar

/-- What the decoder has read of a character. -/
inductive Partial where
  /-- Nothing: the next byte begins a character. -/
  | none
  /-- `owed` more bytes, at least one, are needed; the next must lie between
  `least` and `greatest`. `code` holds the bits read. -/
  | some (owed : Nat) (least greatest : UInt8) (code : Nat)

/-- What stands in the text for bytes that form no character. -/
def replacement : Char := '\ufffd'

/-- The decoder's move on the first byte of a character. -/
def begin (b : UInt8) : List Char × Partial :=
  if b < 0x80 then ([Char.ofNat b.toNat], .none)
  else if b < 0xC2 then ([replacement], .none)
  else if b < 0xE0 then ([], .some 1 0x80 0xBF (b.toNat % 32))
  else if b = 0xE0 then ([], .some 2 0xA0 0xBF 0)
  else if b = 0xED then ([], .some 2 0x80 0x9F 13)
  else if b < 0xF0 then ([], .some 2 0x80 0xBF (b.toNat % 16))
  else if b = 0xF0 then ([], .some 3 0x90 0xBF 0)
  else if b < 0xF4 then ([], .some 3 0x80 0xBF (b.toNat % 8))
  else if b = 0xF4 then ([], .some 3 0x80 0x8F 4)
  else ([replacement], .none)

/-- The decoder's move on one byte: the characters it completes and what it has
read of the next one. -/
def Partial.step (state : Partial) (b : UInt8) : List Char × Partial :=
  match state with
  | .none => begin b
  | .some owed least greatest code =>
    if least ≤ b ∧ b ≤ greatest then
      let code := code * 64 + b.toNat % 64
      if owed ≤ 1 then ([Char.ofNat code], .none) else ([], .some (owed - 1) 0x80 0xBF code)
    else (replacement :: (begin b).1, (begin b).2)

/-- What the decoder writes when the bytes end. -/
def Partial.flush : Partial → List Char
  | .none => []
  | .some .. => [replacement]

/-- The text of the bytes, read from a given state. -/
def decodeFrom (state : Partial) : List UInt8 → List Char
  | [] => state.flush
  | b :: rest => (state.step b).1 ++ decodeFrom (state.step b).2 rest

/-- The text of the bytes, with what is ill-formed replaced. -/
def decode (bytes : List UInt8) : List Char :=
  decodeFrom .none bytes

/-- The text of the bytes, if they are well-formed. -/
def decode? (bytes : List UInt8) : Option (List Char) :=
  if encode (decode bytes) = bytes then some (decode bytes) else none

end ArtifactAudit.Utf8
