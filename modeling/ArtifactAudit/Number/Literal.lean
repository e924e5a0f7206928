import ArtifactAudit.Number.Nearest
import ArtifactAudit.Text.Cut
import ArtifactAudit.Text.Digit
import ArtifactAudit.Text.Quoted

/-!
# Numbers in settings

Settings and options give numbers as text. Blanks around a number are ignored,
except the information separators; digits of every script count; a single
underscore may stand between two digits. A whole number has at most
`digitLimit` digits.
-/

set_option autoImplicit false

namespace ArtifactAudit.Number

/-- Why a text is not a number. -/
inductive LiteralError where
  /-- The text is not a whole number. -/
  | notWhole (text : String)
  /-- The whole number has too many digits. -/
  | tooLong (digits : Nat)
  /-- The text is not a fractional number. -/
  | notFractional (text : String)
  deriving DecidableEq, Repr

/-- The most digits a whole number may have. -/
def digitLimit : Nat := 4300

namespace LiteralError

/-- The message about a text that is not a number. A long text is shown by the
first two hundred characters of its quoted form if a whole number was wanted. -/
def message : LiteralError → String
  | notWhole text =>
    "invalid literal for int() with base 10: " ++
      String.ofList ((Text.quote text.toList).take 200)
  | tooLong digits =>
    s!"Exceeds the limit ({digitLimit} digits) for integer string conversion: " ++
      s!"value has {digits} digits; use sys.set_int_max_str_digits() to increase the limit"
  | notFractional text => "could not convert string to float: " ++ Text.quoted text

end LiteralError

/-- Whether the character may surround a number. -/
def isPadding (c : Char) : Bool :=
  Text.isBlank c && !(0x1C ≤ c.toNat && c.toNat ≤ 0x1F)

/-- A text with the digits of every script written as `0` to `9`. -/
def westernDigits (s : List Char) : List Char :=
  s.map fun c => match Text.digitValue? c with
    | some value => Char.ofNat (48 + value)
    | none => c

/-- The number that a list of digits `0` to `9` denotes. -/
def ofDigits (digits : List Char) : Nat :=
  digits.foldl (fun n c => 10 * n + (c.toNat - 48)) 0

/-- A sign in front of a number, and what follows it: whether the number is
negative. -/
def signed : List Char → Bool × List Char
  | '-' :: rest => (true, rest)
  | '+' :: rest => (false, rest)
  | s => (false, s)

/-- Whether every underscore stands between two digits. `previous` is the
character before the list. -/
def underscoresSeparateDigits (previous : Char) : List Char → Bool
  | [] => previous != '_'
  | c :: rest =>
    (if c = '_' then Text.isAsciiDigit previous
      else previous != '_' || Text.isAsciiDigit c) && underscoresSeparateDigits c rest

/-- Reads a whole number. -/
def readWhole (text : String) : Except LiteralError Int :=
  let (negative, body) := signed (westernDigits (Text.trimWhile isPadding text.toList))
  let isPart (c : Char) : Bool := Text.isAsciiDigit c || c == '_'
  let run := body.takeWhile isPart
  let digits := run.filter Text.isAsciiDigit
  if digits.isEmpty || !underscoresSeparateDigits ' ' run then .error (.notWhole text)
  else if digitLimit < digits.length then .error (.tooLong digits.length)
  else if !(body.dropWhile isPart).isEmpty then .error (.notWhole text)
  else .ok (if negative then -(ofDigits digits : Int) else ofDigits digits)

/-- Reads digits with an optional point and an optional exponent, as digits and
a power of ten. -/
def readDecimal? (s : List Char) : Option (Nat × Int) :=
  let whole := s.takeWhile Text.isAsciiDigit
  let afterWhole := s.dropWhile Text.isAsciiDigit
  let (places, afterPlaces) := match afterWhole with
    | '.' :: rest => (rest.takeWhile Text.isAsciiDigit, rest.dropWhile Text.isAsciiDigit)
    | rest => ([], rest)
  let digits := whole ++ places
  if digits.isEmpty then none
  else match afterPlaces with
    | [] => some (ofDigits digits, -(places.length : Int))
    | mark :: rest =>
      let (negative, power) := signed rest
      if (mark = 'e' ∨ mark = 'E') ∧ !power.isEmpty ∧ power.all Text.isAsciiDigit then
        let exponent : Int := if negative then -(ofDigits power : Int) else ofDigits power
        some (ofDigits digits, exponent - places.length)
      else none

/-- An infinite number. -/
def infinity : Float := Float.ofBits 0x7FF0000000000000

/-- The value that is not a number. -/
def undefined : Float := Float.ofBits 0x7FF8000000000000

/-- Reads a fractional number without its sign. -/
def readSize? (s : List Char) : Option Float :=
  let word := s.map Char.toLower
  if word = "inf".toList ∨ word = "infinity".toList then some infinity
  else if word = "nan".toList then some undefined
  else (readDecimal? s).map fun (digits, exponent) => nearest digits exponent

/-- Reads a fractional number. -/
def readFractional (text : String) : Except LiteralError Float :=
  let padded := westernDigits (Text.trimWhile isPadding text.toList)
  let plain := padded.filter (· != '_')
  let (negative, body) := signed plain
  match if underscoresSeparateDigits ' ' padded then readSize? body else none with
  | some size => .ok (if negative then -size else size)
  | none => .error (.notFractional text)

end ArtifactAudit.Number
