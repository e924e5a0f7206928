import ArtifactAudit.Json.Value
import ArtifactAudit.Number.Literal
import ArtifactAudit.Text.Digit

/-!
# Reading JSON

The reader goes through a text once and says where it had to stop. It follows
RFC 8259 and also takes `NaN`, `Infinity` and `-Infinity`. Of a repeated key the
last value counts. `Rules` holds what the two uses of the reader differ in:
response bodies and cluster listings.
-/

set_option autoImplicit false

namespace ArtifactAudit.Json

/-- What a use of the reader allows. -/
structure Rules where
  /-- How many containers may be open at a time. -/
  depth : Nat
  /-- Whether a container without members counts as open. -/
  countsEmpty : Bool
  /-- Whether the digits in front of a fraction or an exponent are limited in
  number like those of a whole number. -/
  limitsFractions : Bool
  /-- Whether the escape of half a surrogate pair may stand alone. It is read as
  the replacement character. -/
  loneSurrogates : Bool

/-- The rules for response bodies. -/
def Rules.body : Rules where
  depth := 200
  countsEmpty := false
  limitsFractions := true
  loneSurrogates := false

/-- The rules for cluster listings. -/
def Rules.listing : Rules where
  depth := 980
  countsEmpty := true
  limitsFractions := false
  loneSurrogates := true

/-- What the reader missed or refused. -/
inductive Problem where
  /-- A value is missing. -/
  | value
  /-- A key is missing. -/
  | key
  /-- A colon is missing. -/
  | colon
  /-- A comma is missing. -/
  | comma
  /-- The text has no closing quotation mark. -/
  | unterminated
  /-- A control character stands in a text. -/
  | control
  /-- A backslash begins no escape. -/
  | escape
  /-- The escape of a code point is incomplete. -/
  | codePoint
  /-- Half a surrogate pair stands alone. -/
  | surrogate
  /-- More than one value. -/
  | extra
  /-- The document begins with a byte order mark. -/
  | byteOrderMark
  deriving DecidableEq, Repr

def Problem.words : Problem → String
  | value => "Expecting value"
  | key => "Expecting property name enclosed in double quotes"
  | colon => "Expecting ':' delimiter"
  | comma => "Expecting ',' delimiter"
  | unterminated => "Unterminated string starting at"
  | control => "Invalid control character at"
  | escape => "Invalid \\escape"
  | codePoint => "Invalid \\uXXXX escape"
  | surrogate => "Invalid surrogate pair"
  | extra => "Extra data"
  | byteOrderMark => "Unexpected UTF-8 BOM (decode using utf-8-sig)"

/-- Why a document cannot be read. -/
inductive ReadError where
  /-- The document breaks the grammar at a position. -/
  | broken (problem : Problem) (position : Nat)
  /-- A whole number is too long. -/
  | number (error : Number.LiteralError)
  /-- Too many containers are open. -/
  | tooDeep
  deriving DecidableEq, Repr

/-- A place in the document: how many characters lie before it, and those that
follow. -/
structure Place where
  /-- The number of characters before the place. -/
  position : Nat
  /-- The characters that follow. -/
  rest : List Char

namespace Place

/-- The place `count` characters on. -/
def advance (place : Place) (count : Nat) : Place :=
  ⟨place.position + count, place.rest.drop count⟩

/-- The next place that is not at a blank. -/
def skipBlanks (place : Place) : Place :=
  place.advance
    (place.rest.takeWhile fun c => c == ' ' || c == '\t' || c == '\n' || c == '\r').length

/-- The error that the reader reports here. -/
def fails {α : Type} (place : Place) (problem : Problem) : Except ReadError α :=
  .error (.broken problem place.position)

end Place

/-- The number that four hexadecimal digits denote. -/
def codeUnit? (digits : List Char) : Option Nat :=
  if digits.length = 4 then
    digits.foldlM (fun n c => (Text.hexValue? c).map (16 * n + ·)) 0
  else none

/-- Whether the code unit is the first half of a surrogate pair. -/
def isHighSurrogate (unit : Nat) : Bool :=
  0xD800 ≤ unit && unit ≤ 0xDBFF

/-- Whether the code unit is the second half of a surrogate pair. -/
def isLowSurrogate (unit : Nat) : Bool :=
  0xDC00 ≤ unit && unit ≤ 0xDFFF

/-- The character that a one-letter escape denotes. -/
def simpleEscape? : Char → Option Char
  | '"' => some '"'
  | '\\' => some '\\'
  | '/' => some '/'
  | 'b' => some (Char.ofNat 8)
  | 'f' => some (Char.ofNat 12)
  | 'n' => some '\n'
  | 'r' => some '\r'
  | 't' => some '\t'
  | _ => none

/-- Reads the hexadecimal digits of a code point's escape, from the place of the
`u`. Two escapes in a row that form a surrogate pair are read together. -/
def readCodePoint (rules : Rules) (place : Place) : Except ReadError (Char × Place) :=
  let digits := place.advance 1
  let next := place.advance 5
  if next.rest.isEmpty then place.fails .codePoint
  else match codeUnit? (digits.rest.take 4) with
    | none => place.fails .codePoint
    | some unit =>
      let alone : Except ReadError (Char × Place) :=
        if isHighSurrogate unit || isLowSurrogate unit then
          if rules.loneSurrogates then .ok ('\ufffd', next) else place.fails .surrogate
        else .ok (Char.ofNat unit, next)
      match next.rest with
      | '\\' :: 'u' :: more =>
        if isHighSurrogate unit && 4 < more.length then
          match codeUnit? (more.take 4) with
          | none => (next.advance 1).fails .codePoint
          | some low =>
            if isLowSurrogate low then
              .ok (Char.ofNat (0x10000 + (unit - 0xD800) * 0x400 + (low - 0xDC00)), next.advance 6)
            else alone
        else alone
      | _ => alone

/-- Reads a text after its opening quotation mark, which stands at `start`.
`read` holds the characters read so far, the last one first. -/
def readText (rules : Rules) (start : Nat) :
    Nat → Place → List Char → Except ReadError (String × Place)
  | 0, _, _ => .error (.broken .unterminated start)
  | fuel + 1, place, read =>
    match place.rest with
    | [] => .error (.broken .unterminated start)
    | '"' :: _ => .ok (String.ofList read.reverse, place.advance 1)
    | '\\' :: [] => .error (.broken .unterminated start)
    | '\\' :: 'u' :: _ =>
      (readCodePoint rules (place.advance 1)).bind fun (c, next) =>
        readText rules start fuel next (c :: read)
    | '\\' :: letter :: _ =>
      match simpleEscape? letter with
      | some c => readText rules start fuel (place.advance 2) (c :: read)
      | none => place.fails .escape
    | c :: _ =>
      if c.toNat < 0x20 then place.fails .control
      else readText rules start fuel (place.advance 1) (c :: read)

/-- Reads a number. A point or an exponent without digits after it is not part
of the number. -/
def readNumber (rules : Rules) (place : Place) : Except ReadError (Value × Place) :=
  let isDigit := Text.isAsciiDigit
  let negative := place.rest.head? == some '-'
  let unsigned := if negative then place.rest.drop 1 else place.rest
  let whole := match unsigned with
    | '0' :: _ => ['0']
    | rest => rest.takeWhile isDigit
  let afterWhole := unsigned.drop whole.length
  let places := match afterWhole with
    | '.' :: rest => rest.takeWhile isDigit
    | _ => []
  let afterPlaces := if places.isEmpty then afterWhole else afterWhole.drop (places.length + 1)
  let power : List Char × List Char := match afterPlaces with
    | mark :: rest =>
      if mark = 'e' ∨ mark = 'E' then
        match rest with
        | '-' :: digits => (['-'], digits.takeWhile isDigit)
        | '+' :: digits => (['+'], digits.takeWhile isDigit)
        | digits => ([], digits.takeWhile isDigit)
      else ([], [])
    | [] => ([], [])
  if whole.isEmpty then place.fails .value
  else if Number.digitLimit < whole.length &&
      (rules.limitsFractions || (places.isEmpty && power.2.isEmpty)) then
    .error (.number (.tooLong whole.length))
  else if places.isEmpty && power.2.isEmpty then
    let size : Int := Number.ofDigits whole
    .ok (.int (if negative then -size else size),
      place.advance (whole.length + if negative then 1 else 0))
  else
    let shift : Int := Number.ofDigits power.2
    let exponent := (if power.1 = ['-'] then -shift else shift) - places.length
    let size := Number.nearest (Number.ofDigits (whole ++ places)) exponent
    let length := (if negative then 1 else 0) + whole.length +
      (if places.isEmpty then 0 else 1 + places.length) +
      (if power.2.isEmpty then 0 else 1 + power.1.length + power.2.length)
    .ok (.float (if negative then -size else size), place.advance length)

/-- The words that denote a value. -/
def words : List (List Char × Value) :=
  [("null".toList, .null), ("true".toList, .bool true), ("false".toList, .bool false),
    ("NaN".toList, .float Number.undefined), ("Infinity".toList, .float Number.infinity),
    ("-Infinity".toList, .float (-Number.infinity))]

mutual

/-- Reads one value. Every call takes one from the fuel, and between two calls
that read no character there is never a third, so twice as much fuel as there are
characters always suffices, for the texts too. -/
def readValue (rules : Rules) : (fuel depth : Nat) → Place → Except ReadError (Value × Place)
  | 0, _, place => place.fails .value
  | fuel + 1, depth, place =>
    match place.rest with
    | '"' :: _ =>
      (readText rules place.position fuel (place.advance 1) []).bind
        fun (value, next) => .ok (.string value, next)
    | '[' :: _ =>
      let inside := (place.advance 1).skipBlanks
      let isEmpty := inside.rest.head? == some ']'
      if depth = 0 && (rules.countsEmpty || !isEmpty) then .error .tooDeep
      else if isEmpty then .ok (.array [], inside.advance 1)
      else readItems rules fuel (depth - 1) inside []
    | '{' :: _ =>
      let inside := (place.advance 1).skipBlanks
      let isEmpty := inside.rest.head? == some '}'
      if depth = 0 && (rules.countsEmpty || !isEmpty) then .error .tooDeep
      else if isEmpty then .ok (.object [], inside.advance 1)
      else readFields rules fuel (depth - 1) inside []
    | _ =>
      match words.find? fun entry => entry.1.isPrefixOf place.rest with
      | some (word, value) => .ok (value, place.advance word.length)
      | none => readNumber rules place

/-- Reads the items of a list up to its end. `read` holds the items read so far,
the last one first. -/
def readItems (rules : Rules) : (fuel depth : Nat) → Place → List Value →
    Except ReadError (Value × Place)
  | 0, _, place, _ => place.fails .value
  | fuel + 1, depth, place, read =>
    (readValue rules fuel depth place).bind fun (value, next) =>
      let next := next.skipBlanks
      match next.rest with
      | ']' :: _ => .ok (.array (value :: read).reverse, next.advance 1)
      | ',' :: _ => readItems rules fuel depth (next.advance 1).skipBlanks (value :: read)
      | _ => next.fails .comma

/-- Reads the fields of an object up to its end. -/
def readFields (rules : Rules) : (fuel depth : Nat) → Place → List (String × Value) →
    Except ReadError (Value × Place)
  | 0, _, place, _ => place.fails .key
  | fuel + 1, depth, place, read =>
    match place.rest with
    | '"' :: _ =>
      (readText rules place.position fuel (place.advance 1) []).bind
        fun (key, next) =>
          let next := next.skipBlanks
          match next.rest with
          | ':' :: _ =>
            (readValue rules fuel depth (next.advance 1).skipBlanks).bind fun (value, next) =>
              let next := next.skipBlanks
              match next.rest with
              | '}' :: _ => .ok (.object (setField key value read), next.advance 1)
              | ',' :: _ =>
                readFields rules fuel depth (next.advance 1).skipBlanks (setField key value read)
              | _ => next.fails .comma
          | _ => next.fails .colon
    | _ => place.fails .key

end

/-- Reads a document: one value, with blanks around it. -/
def read (rules : Rules) (document : List Char) : Except ReadError Value :=
  match document with
  | '\ufeff' :: _ => .error (.broken .byteOrderMark 0)
  | _ =>
    (readValue rules (2 * document.length + 2) rules.depth (Place.mk 0 document).skipBlanks).bind
      fun (value, next) =>
        let next := next.skipBlanks
        if next.rest.isEmpty then .ok value else next.fails .extra

/-- The message about a position in a document, with its line and column. -/
def positionMessage (document : List Char) (problem : Problem) (position : Nat) : String :=
  let passed := document.take position
  let line := passed.count '\n' + 1
  let column := (passed.reverse.takeWhile (· != '\n')).length + 1
  s!"{problem.words}: line {line} column {column} (char {position})"

end ArtifactAudit.Json
