import ArtifactAudit.Encoding.Percent

/-!
# Upload forms

A file is sent as the only part of a form. The parts of a form are separated by
a boundary line, and each begins with headers.
-/

set_option autoImplicit false

namespace ArtifactAudit.Platform.Upload

/-- One character of a quoted file name: quotation marks and control characters
are percent-encoded, the escape character excepted, and a backslash is doubled. -/
def fileNameChar (c : Char) : List Char :=
  if c = '\\' then ['\\', '\\']
  else if c = '"' ∨ (c.toNat < 0x20 ∧ c.toNat ≠ 0x1B) then
    Percent.escapeByte (UInt8.ofNat c.toNat)
  else [c]

/-- The headers of the part that holds a file. -/
def headers (fileName : String) : List Char :=
  "Content-Disposition: form-data; name=\"uploadfile\"; filename=\"".toList ++
    fileName.toList.flatMap fileNameChar ++
    "\"\r\nContent-Type: application/octet-stream\r\n\r\n".toList

/-- A form with a file as its only part. -/
def form (boundary fileName : String) (content : List UInt8) : List UInt8 :=
  Utf8.encode ("--".toList ++ boundary.toList ++ "\r\n".toList ++ headers fileName) ++ content ++
    Utf8.encode ("\r\n--".toList ++ boundary.toList ++ "--\r\n".toList)

end ArtifactAudit.Platform.Upload
