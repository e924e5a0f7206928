import ArtifactAudit.Encoding.Percent
import ArtifactAudit.Number.Literal
import ArtifactAudit.Text.Phrase

/-!
# The parameters of a content type

A content type is followed by parameters, `name=value` each, with semicolons
between them. A value may stand in quotation marks. By RFC 2231 a value may also
be spread over segments, `name*0`, `name*1` and so on, and a segment whose name
ends in an asterisk is percent-encoded and begins with the names of a character
set and a language.

`charset?` is the character set that the parameters name. Reading them can break
down, but only at numbers of segments.
-/

set_option autoImplicit false

namespace ArtifactAudit.ContentType

/-- Why parameters cannot be read. -/
inductive Problem where
  /-- The number of a segment is too long. -/
  | longNumber (error : Number.LiteralError)
  /-- Some segments of a value have numbers and some have none. -/
  | mixedNumbers
  /-- The name of a character set holds a null character. -/
  | nullCharacter
  deriving DecidableEq, Repr

structure Parameter where
  name : List Char
  value : List Char
  deriving DecidableEq, Repr

/-- A segment of a value. -/
structure Segment where
  /-- The name of the value. -/
  name : List Char
  /-- The number of the segment. -/
  number : Option Nat
  /-- The text of the segment. -/
  value : List Char
  /-- Whether the text is percent-encoded. -/
  encoded : Bool
  deriving DecidableEq, Repr

/-! ## Cutting -/

/-- The stretches between semicolons that do not stand in quotation marks. A
quotation mark behind a backslash is none. `current` holds the stretch so far, its
last character first. -/
def stretches (quoted : Bool) (current : List Char) : List Char → List (List Char)
  | [] => [current.reverse]
  | c :: rest =>
    if c = ';' && !quoted then current.reverse :: stretches false [] rest
    else
      stretches (if c = '"' && current.head? != some '\\' then !quoted else quoted) (c :: current)
        rest

/-- The parameter in a stretch. A stretch without an equals sign is a name. -/
def Parameter.ofStretch (stretch : List Char) : Parameter :=
  match Text.after? '=' stretch with
  | some value =>
    { name := Text.lower (Text.strip (Text.before '=' stretch)), value := Text.strip value }
  | none => { name := Text.strip stretch, value := [] }

/-- A text with each pair of characters that is `pair` replaced by `single`. -/
def replacePair (pair : Char × Char) (single : Char) : List Char → List Char
  | a :: b :: rest =>
    if (a, b) = pair then single :: replacePair pair single rest
    else a :: replacePair pair single (b :: rest)
  | s => s

/-- A value without its quotation marks or angle brackets. -/
def unquote (value : List Char) : List Char :=
  let inner := (value.drop 1).dropLast
  if value.length < 2 then value
  else if value.head? = some '"' ∧ value.getLast? = some '"' then
    replacePair ('\\', '"') '"' (replacePair ('\\', '\\') '\\' inner)
  else if value.head? = some '<' ∧ value.getLast? = some '>' then inner
  else value

/-! ## Segments -/

/-- Whether the character may stand in the name of a segmented value. -/
def isNameChar (c : Char) : Bool :=
  c.isAlphanum || c == '_'

/-- The segment that a parameter is, if its name is that of one. -/
def Parameter.segment? (parameter : Parameter) : Option (Except Problem Segment) :=
  let name := Text.before '*' parameter.name
  (Text.after? '*' parameter.name).bind fun mark =>
    let digits := mark.takeWhile Text.isAsciiDigit
    let rest := mark.drop digits.length
    let segment (number : Option Nat) : Segment :=
      { name, number, value := unquote parameter.value
        encoded := parameter.name.getLast? == some '*' }
    if name.isEmpty || !name.all isNameChar then none
    else if mark.isEmpty then some (.ok (segment none))
    else if digits.isEmpty || !(rest == [] || rest == ['*']) then none
    else if Number.digitLimit < digits.length then
      some (.error (.longNumber (.tooLong digits.length)))
    else some (.ok (segment (some (Number.ofDigits digits))))

/-- Whether a segment comes before another one or is equal to it: by number, then
by text, then with the encoded ones behind. -/
def Segment.comesBefore (a b : Segment) : Bool :=
  let number (s : Segment) : Nat := s.number.getD 0
  let text (s : Segment) : String := String.ofList s.value
  if number a != number b then number a < number b
  else if text a != text b then text a < text b
  else !a.encoded || b.encoded

/-- The text of a segment, decoded if it is encoded: each byte is a character. -/
def Segment.text (segment : Segment) : List Char :=
  if segment.encoded then (Percent.bytes segment.value).map fun b => Char.ofNat b.toNat
  else segment.value

/-- A value and the character set it is said to be written in. -/
structure Value where
  /-- The name of the parameter. -/
  name : List Char
  text : List Char
  /-- The name of the character set, empty if none is given. -/
  charset : List Char := []
  deriving DecidableEq, Repr

/-- The value that segments make up. In front of an encoded value stand the names
of its character set and language, each followed by an apostrophe. -/
def join (name : List Char) (segments : List Segment) : Except Problem Value :=
  if segments.any (·.number.isSome) && segments.any (·.number.isNone) then .error .mixedNumbers
  else
    let whole := (segments.mergeSort Segment.comesBefore).flatMap Segment.text
    match (Text.after? '\'' whole).bind (Text.after? '\'') with
    | some text =>
      if segments.any (·.encoded) then
        .ok { name, text, charset := Text.before '\'' whole }
      else .ok { name, text := whole }
    | none => .ok { name, text := whole }

/-- The values that segments make up, in the order in which they begin. -/
def joinAll (segments : List Segment) : Except Problem (List Value) :=
  (segments.map (·.name)).eraseDups.mapM fun name =>
    join name (segments.filter (·.name == name))

/-! ## The character set -/

/-- Whether the value is the name of a character set. -/
def Value.isCharset (value : Value) : Bool :=
  Text.lower value.name == "charset".toList

/-- The values of a content type. Those in one piece come before those in
segments. What stands in front of the first semicolon counts as well, but not as a
segment. -/
def values (contentType : List Char) : Except Problem (List Value) := do
  let parameters := (stretches false [] contentType).map Parameter.ofStretch
  let others := parameters.drop 1
  let joined ← joinAll (← (others.filterMap Parameter.segment?).mapM id)
  let whole := parameters.take 1 ++ others.filter (·.segment?.isNone)
  return whole.map (fun p => { name := p.name, text := unquote p.value }) ++ joined

/-- The character set that a content type names, in lower case. A name that is not
ASCII is none. -/
def charset? (contentType : List Char) : Except Problem (Option (List Char)) := do
  match (← values contentType).find? Value.isCharset with
  | some value =>
    if value.charset.contains '\x00' then .error .nullCharacter
    else if value.text.all Percent.isAscii then
      if value.text.contains '\x00' then .error .nullCharacter
      else return some (Text.lower value.text)
    else return none
  | none => return none

end ArtifactAudit.ContentType
