import ArtifactAudit.Encoding.CodePage
import ArtifactAudit.Encoding.ContentType
import ArtifactAudit.Encoding.Utf16

/-!
# The text of a response body

A body is read in the character encoding that its content type names. A body
without a known encoding is read as UTF-8. What is ill-formed is replaced.

Some names that are known stand for transformations of bytes which give no text.
A body under such a name has none.

The encodings known here are UTF-8, UTF-16, UTF-32, ASCII and usual ones with one
byte a character. A library that knows others too, such as those with several bytes
a character, reads bodies that name them in its own way: `Platform.Response` leaves
that open.
-/

set_option autoImplicit false

namespace ArtifactAudit

/-- A character encoding for bodies. -/
inductive Charset where
  /-- UTF-8. -/
  | utf8
  /-- UTF-8 with a mark in front that does not count. -/
  | utf8Marked
  /-- ISO 8859-1: a byte is a code point. -/
  | latin1
  /-- Seven-bit ASCII: every other byte is replaced. -/
  | ascii
  /-- UTF-16 in a byte order, or in the one that a mark in front announces. -/
  | utf16 (order : Option Utf16.ByteOrder)
  /-- UTF-32 in a byte order, or in the one that a mark in front announces. -/
  | utf32 (order : Option Utf16.ByteOrder)
  /-- One byte a character. -/
  | codePage (page : CodePage)
  /-- A transformation of bytes. -/
  | transform
  /-- A transformation of text. -/
  | cipher
  /-- An encoding that cannot replace what is ill-formed. -/
  | strict
  deriving DecidableEq, Repr

/-- Why a body has no text. -/
inductive BodyError where
  /-- The parameters of the content type cannot be read. -/
  | parameters (problem : ContentType.Problem)
  /-- Nothing shows how the bytes are to be read. -/
  | undecodable
  /-- The content type names a transformation of bytes. -/
  | transform
  /-- The content type names a transformation of text. -/
  | cipher
  deriving DecidableEq, Repr

namespace Charset

/-! ## Names -/

/-- A name of an encoding in normal form: in lower case, with one underscore for
each run of other characters than letters, digits and dots, none at the ends. -/
def normalName (name : List Char) : List Char :=
  let counts (c : Char) : Bool := c.isAlphanum || c == '.'
  Text.joinPieces '_'
    ((Text.pieces '_' ((Text.lower name).map fun c => if counts c then c else '_')).filter
      (!·.isEmpty))

/-- The encodings by their names. -/
def named : List (Charset × List String) :=
  [(.utf8, ["utf_8"]), (.utf8Marked, ["utf_8_sig"]), (.latin1, ["latin_1", "charmap"]),
    (.ascii, ["ascii"]), (.utf16 none, ["utf_16"]), (.utf16 (some .littleEndian), ["utf_16_le"]),
    (.utf16 (some .bigEndian), ["utf_16_be"]), (.utf32 none, ["utf_32"]),
    (.utf32 (some .littleEndian), ["utf_32_le"]), (.utf32 (some .bigEndian), ["utf_32_be"]),
    (.transform, ["hex_codec", "base64_codec", "bz2_codec", "zlib_codec", "uu_codec",
      "quopri_codec"]),
    (.cipher, ["rot_13"]), (.strict, ["undefined", "idna"])] ++
    CodePage.all.map fun page => (.codePage page, [page.name])

/-- The encodings by other names. Dots may stand for underscores in these. -/
def otherwiseNamed : List (Charset × List String) :=
  [(.utf8, ["u8", "utf", "utf8", "utf8_ucs2", "utf8_ucs4", "cp65001"]),
    (.latin1, ["8859", "cp819", "csisolatin1", "ibm819", "iso8859", "iso8859_1", "iso_8859_1",
      "iso_8859_1_1987", "iso_ir_100", "l1", "latin", "latin1"]),
    (.ascii, ["646", "ansi_x3.4_1968", "ansi_x3_4_1968", "ansi_x3.4_1986", "cp367", "csascii",
      "ibm367", "iso646_us", "iso_646.irv_1991", "iso_ir_6", "us", "us_ascii"]),
    (.utf16 none, ["u16", "utf16"]),
    (.utf16 (some .littleEndian), ["unicodelittleunmarked", "utf_16le"]),
    (.utf16 (some .bigEndian), ["unicodebigunmarked", "utf_16be"]),
    (.utf32 none, ["u32", "utf32"]), (.utf32 (some .littleEndian), ["utf_32le"]),
    (.utf32 (some .bigEndian), ["utf_32be"]),
    (.transform, ["hex", "base64", "base_64", "bz2", "zip", "zlib", "uu", "quopri",
      "quoted_printable", "quotedprintable"]),
    (.cipher, ["rot13"])] ++
    CodePage.all.map fun page => (.codePage page, page.aliases)

/-- The encoding of a name. -/
def ofName? (name : List Char) : Option Charset :=
  let normal := String.ofList (normalName name)
  let undotted := String.ofList ((normalName name).map fun c => if c = '.' then '_' else c)
  ((otherwiseNamed.find? fun entry => entry.2.contains normal || entry.2.contains undotted).or
    (named.find? fun entry => entry.2.contains normal)).map (·.1)

/-- The encoding that a content type names, UTF-8 when it names none that is
known. -/
def ofContentType (contentType : Option String) : Except BodyError Charset :=
  match contentType with
  | none => .ok .utf8
  | some contentType =>
    match ContentType.charset? contentType.toList with
    | .error problem => .error (.parameters problem)
    | .ok name => .ok ((name.bind ofName?).getD .utf8)

/-! ## Decoding -/

/-- The text of bytes in an encoding. -/
def decode (charset : Charset) (bytes : List UInt8) : Except BodyError (List Char) :=
  match charset with
  | .utf8 => .ok (Utf8.decode bytes)
  | .utf8Marked =>
    .ok (Utf8.decode (if [0xEF, 0xBB, 0xBF].isPrefixOf bytes then bytes.drop 3 else bytes))
  | .latin1 => .ok (bytes.map fun b => Char.ofNat b.toNat)
  | .ascii =>
    .ok (bytes.map fun b => if b < 0x80 then Char.ofNat b.toNat else Utf8.replacement)
  | .utf16 (some order) => .ok (Utf16.decode order bytes)
  | .utf16 none =>
    match Utf16.marked? bytes with
    | some (order, rest) => .ok (Utf16.decode order rest)
    | none =>
      if bytes.length < 2 then .ok (Utf16.decode .littleEndian bytes) else .error .undecodable
  | .utf32 (some order) => .ok (Utf32.decode order bytes)
  | .utf32 none =>
    match Utf32.marked? bytes with
    | some (order, rest) => .ok (Utf32.decode order rest)
    | none =>
      if bytes.length < 4 then .ok (Utf32.decode .littleEndian bytes) else .error .undecodable
  | .codePage page => .ok (page.decode bytes)
  | .transform => .error .transform
  | .cipher => .error .cipher
  | .strict => .error .undecodable

/-- The text of a body. The content type of an empty one does not matter. -/
def bodyText (contentType : Option String) (body : List UInt8) : Except BodyError (List Char) :=
  if body.isEmpty then .ok []
  else (ofContentType contentType).bind fun charset => charset.decode body

end Charset

end ArtifactAudit
