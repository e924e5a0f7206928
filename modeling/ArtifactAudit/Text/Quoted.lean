import ArtifactAudit.Text.Digit
import ArtifactAudit.Text.Printable

/-!
# Quoted text

Messages show a text that came from outside between quotation marks, with every
character that has no visible form escaped. Single quotes are used unless the
text holds a single quote and no double one.
-/

set_option autoImplicit false

namespace ArtifactAudit.Text

/-- The quotation mark a text is written in. -/
def quoteMark (s : List Char) : Char :=
  if s.contains '\'' && !s.contains '"' then '"' else '\''

/-- One character between quotation marks `mark`. A character without a visible
form is written by its code point in two, four or eight hexadecimal digits. -/
def quoteChar (mark c : Char) : List Char :=
  if c = mark || c = '\\' then ['\\', c]
  else if c = '\n' then ['\\', 'n']
  else if c = '\r' then ['\\', 'r']
  else if c = '\t' then ['\\', 't']
  else if isPrintable c then [c]
  else if c.toNat < 0x100 then '\\' :: 'x' :: hexDigits 2 c.toNat
  else if c.toNat < 0x10000 then '\\' :: 'u' :: hexDigits 4 c.toNat
  else '\\' :: 'U' :: hexDigits 8 c.toNat

/-- A text between quotation marks. -/
def quote (s : List Char) : List Char :=
  let mark := quoteMark s
  mark :: s.flatMap (quoteChar mark) ++ [mark]

/-- A text between quotation marks. -/
def quoted (s : String) : String :=
  String.ofList (quote s.toList)

end ArtifactAudit.Text
