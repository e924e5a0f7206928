import ArtifactAudit.Json.Value
import ArtifactAudit.Number.Places
import ArtifactAudit.Number.Shortest
import ArtifactAudit.Text.Digit

/-!
# Templates of log messages

A message of the log may hold places for arguments. A place is a percent sign,
flags, a width, a precision and a letter that says what kind of text is made of
the argument; a doubled percent sign stands for one. Arguments fill the places in
turn and none may be left over. A single record as the argument fills the places
that name its fields.
-/

set_option autoImplicit false

namespace ArtifactAudit.Logging

/-- Why a template cannot be filled. -/
inductive TemplateError where
  /-- The template ends inside a place. -/
  | incomplete
  /-- The name of a field has no end. -/
  | incompleteKey
  /-- No text is made under this letter, which stands at this position. -/
  | unsupported (letter : Char) (position : Nat)
  /-- There are too few or too many arguments, or one is of the wrong kind. -/
  | wrongArguments
  /-- The record has no such field. -/
  | noField
  /-- A width that is written out is too great. -/
  | tooWide
  /-- A precision that is written out is too great. -/
  | tooPrecise
  /-- No whole number comes near enough to the argument. -/
  | notWhole
  /-- The argument is too great. -/
  | tooGreat
  deriving DecidableEq, Repr

/-- The message about a template that is ill-formed. Arguments that do not fit have
none. -/
def TemplateError.message? : TemplateError → Option String
  | incomplete => some "incomplete format"
  | incompleteKey => some "incomplete format key"
  | unsupported letter position =>
    let shown := if 31 ≤ letter.toNat ∧ letter.toNat ≤ 126 then letter else '?'
    let code := String.ofList (Text.hexDigits 1 letter.toNat)
    some s!"unsupported format character '{shown}' (0x{code}) at index {position}"
  | tooWide => some "width too big"
  | tooPrecise => some "precision too big"
  | notWhole => some "cannot convert float NaN to integer"
  | wrongArguments | noField | tooGreat => none

/-- A place for an argument. -/
structure Place where
  /-- The name of a field. -/
  key : Option (List Char) := none
  flags : List Char := []
  /-- The least length. A negative one fills from the right. -/
  width : Int := 0
  precision : Option Nat := none
  letter : Char
  deriving DecidableEq, Repr

namespace Place

def has (place : Place) (flag : Char) : Bool :=
  place.flags.contains flag

/-- Whether the text stands at the left of the place. -/
def isLeft (place : Place) : Bool :=
  place.has '-' || place.width < 0

/-- A text brought to the width of the place. -/
def fill (place : Place) (s : List Char) : List Char :=
  let blanks := List.replicate (place.width.natAbs - s.length) ' '
  if place.isLeft then s ++ blanks else blanks ++ s

/-- The size of a number with its sign, brought to the width of the place. `mark`
stands between the two. -/
def fillNumber (place : Place) (negative : Bool) (mark size : List Char) : List Char :=
  let sign :=
    if negative then ['-'] else if place.has '+' then ['+'] else if place.has ' ' then [' '] else []
  let front := sign ++ mark
  if place.has '0' && !place.isLeft then
    front ++ List.replicate (place.width.natAbs - front.length - size.length) '0' ++ size
  else place.fill (front ++ size)

end Place

/-! ## Texts of arguments -/

/-- A text with every character beyond ASCII escaped. -/
def asciiShown (s : List Char) : List Char :=
  s.flatMap fun c =>
    if c.toNat < 0x80 then [c]
    else if c.toNat < 0x100 then '\\' :: 'x' :: Text.hexDigits 2 c.toNat
    else if c.toNat < 0x10000 then '\\' :: 'u' :: Text.hexDigits 4 c.toNat
    else '\\' :: 'U' :: Text.hexDigits 8 c.toNat

/-- The whole number that a number or truth value stands for. A fraction is cut
off. -/
def wholeOf (value : Json.Value) : Except TemplateError Int :=
  match value with
  | .bool value => .ok (if value then 1 else 0)
  | .int n => .ok n
  | .float x =>
    if x.isNaN then .error .notWhole
    else if x.isInf then .error .tooGreat
    else
      let (numerator, denominator) :=
        (Number.Binary.ofBits (x.toBits.toNat % Number.twoTo 63)).ratio
      let size : Int := (numerator / denominator : Nat)
      .ok (if x < 0 then -size else size)
  | _ => .error .wrongArguments

/-- The double that a number or truth value stands for. -/
def doubleOf (value : Json.Value) : Except TemplateError Float :=
  match value with
  | .bool value => .ok (if value then 1 else 0)
  | .int n =>
    let size := Number.nearest n.natAbs 0
    if size.isInf then .error .tooGreat else .ok (if n < 0 then -size else size)
  | .float x => .ok x
  | _ => .error .wrongArguments

/-- A whole number in a base at a place. -/
def wholeText (place : Place) (base : Nat) (mark : List Char) (n : Int) : List Char :=
  let digits := Nat.toDigits base n.natAbs
  let size := List.replicate (place.precision.getD 0 - digits.length) '0' ++ digits
  place.fillNumber (n < 0) (if place.has '#' then mark else []) size

/-- The text that a place makes of an argument. -/
def Place.text (place : Place) (value : Json.Value) : Except TemplateError (List Char) :=
  let cut (s : List Char) : List Char := place.fill ((place.precision.map s.take).getD s)
  let whole (base : Nat) (mark : List Char) : Except TemplateError (List Char) :=
    match value with
    | .float _ => .error .wrongArguments
    | value => (wholeOf value).map (wholeText place base mark)
  let places (form : Number.PlacesForm) : Except TemplateError (List Char) :=
    (doubleOf value).map fun x =>
      place.fillNumber (!x.isNaN && x.toBits ≥ 0x8000000000000000) []
        (Number.withPlaces form (place.precision.getD 6) (place.has '#') x)
  match place.letter with
  | 's' => .ok (cut value.text.toList)
  | 'r' => .ok (cut value.shown.toList)
  | 'a' => .ok (cut (asciiShown value.shown.toList))
  | 'd' | 'i' | 'u' => (wholeOf value).map (wholeText place 10 [])
  | 'o' => whole 8 ['0', 'o']
  | 'x' => whole 16 ['0', 'x']
  | 'X' => (whole 16 ['0', 'x']).map (·.map Char.toUpper)
  | 'f' => places .fixed
  | 'e' => places .exponential
  | 'g' => places .general
  | 'F' => (places .fixed).map (·.map Char.toUpper)
  | 'E' => (places .exponential).map (·.map Char.toUpper)
  | 'G' => (places .general).map (·.map Char.toUpper)
  | _ =>
    match value with
    | .string s => if s.length = 1 then .ok (place.fill s.toList) else .error .wrongArguments
    | .float _ => .error .wrongArguments
    | value =>
      (wholeOf value).bind fun n =>
        if 0 ≤ n ∧ n.toNat.isValidChar then .ok (place.fill [Char.ofNat n.toNat])
        else .error .tooGreat

/-! ## Reading and filling places -/

/-- The letters under which texts are made. -/
def letters : List Char :=
  "srcadiuoxXfFeEgG".toList

/-- The arguments that are left, or the record whose fields are named. -/
inductive Supply where
  /-- Arguments, to be taken in turn. -/
  | inTurn (arguments : List Json.Value)
  /-- A record, which is also the only argument until it is taken. -/
  | fields (record : Json.Value) (taken : Bool)

namespace Supply

/-- The next argument. -/
def next : Supply → Except TemplateError (Json.Value × Supply)
  | .inTurn (value :: rest) => .ok (value, .inTurn rest)
  | .fields record false => .ok (record, .fields record true)
  | _ => .error .wrongArguments

/-- The argument for a place. Behind a field that is named the record is no longer
an argument. -/
def take (supply : Supply) (key : Option (List Char)) :
    Except TemplateError (Json.Value × Supply) :=
  match key, supply with
  | none, supply => supply.next
  | some key, .fields record _ =>
    match record.field? (String.ofList key) with
    | some value => .ok (value, .fields record true)
    | none => .error .noField
  | some _, .inTurn _ => .error .wrongArguments

/-- Whether no argument is left over. A record need not be taken. -/
def isSpent : Supply → Bool
  | .inTurn arguments => arguments.isEmpty
  | .fields _ _ => true

end Supply

/-- A number in a place, which must not be greater than `limit`: digits, or an
asterisk for the next argument. -/
def readSize (limit : Nat) (error : TemplateError) (supply : Supply) (s : List Char) :
    Except TemplateError (Option Int × Supply × List Char) :=
  match s with
  | '*' :: rest =>
    supply.next.bind fun (value, supply) =>
      match value with
      | .int n =>
        if n.natAbs ≤ limit then .ok (some n, supply, rest) else .error .tooGreat
      | .bool value => .ok (some (if value then 1 else 0), supply, rest)
      | _ => .error .wrongArguments
  | s =>
    let digits := s.takeWhile Text.isAsciiDigit
    let size := digits.foldl (fun n c => 10 * n + (c.toNat - 48)) 0
    if limit < size then .error error
    else .ok (if digits.isEmpty then none else some (size : Int), supply, s.drop digits.length)

/-- The name of a field up to its closing parenthesis, which matches the opening
one, and what follows. -/
def readKey (depth : Nat) (key : List Char) : List Char → Option (List Char × List Char)
  | [] => none
  | ')' :: rest =>
    if depth = 0 then some (key.reverse, rest) else readKey (depth - 1) (')' :: key) rest
  | '(' :: rest => readKey (depth + 1) ('(' :: key) rest
  | c :: rest => readKey depth (c :: key) rest

/-- Whether the character is a flag. -/
def isFlag (c : Char) : Bool :=
  ['-', '+', ' ', '#', '0'].contains c

/-- Reads the rest of a place, after its percent sign. -/
def readPlace (supply : Supply) (s : List Char) :
    Except TemplateError (Place × Supply × List Char) := do
  let (key, s) ← match s, supply with
    | '(' :: rest, .fields record _ =>
      match readKey 0 [] rest with
      | some (key, rest) =>
        if (record.field? (String.ofList key)).isSome then .ok (some key, rest)
        else .error .noField
      | none => .error .incompleteKey
    | '(' :: _, .inTurn _ => .error .wrongArguments
    | s, _ => .ok (none, s)
  let flags := s.takeWhile isFlag
  let (width, supply, s) ←
    readSize (Number.twoTo 63 - 1) .tooWide supply (s.drop flags.length)
  let (precision, supply, s) ← match s with
    | '.' :: rest =>
      (readSize (Number.twoTo 31 - 1) .tooPrecise supply rest).map fun (size, supply, rest) =>
        (some (size.getD 0).toNat, supply, rest)
    | s => .ok (none, supply, s)
  match (if s.head?.any ['h', 'l', 'L'].contains then s.drop 1 else s) with
  | [] => .error .incomplete
  | letter :: rest =>
    .ok ({ key, flags, width := width.getD 0, precision, letter }, supply, rest)

/-- Fills the places of a template with `length` characters. Every place takes a
character from the fuel. -/
def fillPlaces (length : Nat) :
    (fuel : Nat) → Supply → List Char → Except TemplateError (List Char)
  | 0, _, _ => .ok []
  | _ + 1, supply, [] => if supply.isSpent then .ok [] else .error .wrongArguments
  | fuel + 1, supply, '%' :: '%' :: rest => return '%' :: (← fillPlaces length fuel supply rest)
  | fuel + 1, supply, '%' :: rest => do
    let (place, supply, rest) ← readPlace supply rest
    let (value, supply) ← supply.take place.key
    if letters.contains place.letter then
      return (← place.text value) ++ (← fillPlaces length fuel supply rest)
    else .error (.unsupported place.letter (length - rest.length - 1))
  | fuel + 1, supply, c :: rest => return c :: (← fillPlaces length fuel supply rest)

/-- The text of a template with its places filled. -/
def fillTemplate (template : String) (arguments : List Json.Value) :
    Except TemplateError String :=
  let supply := match arguments with
    | [.object (field :: fields)] => .fields (.object (field :: fields)) false
    | arguments => .inTurn arguments
  (fillPlaces template.length (template.length + 1) supply template.toList).map String.ofList

end ArtifactAudit.Logging
