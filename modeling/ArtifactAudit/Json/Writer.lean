import ArtifactAudit.Json.Value
import ArtifactAudit.Text.Digit

/-!
# Writing JSON

A value is written on one line without blanks. In a text only quotation marks,
backslashes and control characters are escaped. Numbers with a fraction or an
exponent are written by their shortest decimals, and the infinite ones in the
words that the reader takes.
-/

set_option autoImplicit false

namespace ArtifactAudit.Json

/-- The layout of numbers with a fraction or an exponent. -/
def layout : Number.Layout :=
  { Number.Layout.standard with infinite := "Infinity".toList, undefined := "NaN".toList }

/-- A character in a text. -/
def writeChar (c : Char) : List Char :=
  if c = '"' || c = '\\' then ['\\', c]
  else if c.toNat < 0x20 then '\\' :: 'u' :: Text.hexDigits 4 c.toNat
  else [c]

/-- A text between quotation marks. -/
def writeText (s : String) : String :=
  String.ofList ('"' :: s.toList.flatMap writeChar ++ ['"'])

namespace Value

mutual

/-- A value as a document. -/
def written : Value → String
  | .null => "null"
  | .bool true => "true"
  | .bool false => "false"
  | .int value => toString value
  | .float value => String.ofList (layout.float value)
  | .string value => writeText value
  | .array items => "[" ++ ",".intercalate (writtenItems items) ++ "]"
  | .object fields => "\x7b" ++ ",".intercalate (writtenFields fields) ++ "\x7d"

/-- The items of a list as documents. -/
def writtenItems : List Value → List String
  | [] => []
  | item :: rest => written item :: writtenItems rest

/-- The fields of an object, each key with its document. -/
def writtenFields : List (String × Value) → List String
  | [] => []
  | (key, value) :: rest => (writeText key ++ ":" ++ written value) :: writtenFields rest

end

end Value

end ArtifactAudit.Json
