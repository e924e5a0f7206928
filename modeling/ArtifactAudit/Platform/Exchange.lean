import ArtifactAudit.Encoding.Charset
import ArtifactAudit.Fault
import ArtifactAudit.Json.Value
import ArtifactAudit.Url.Location

/-!
# Exchanges with the platform

What is sent to the platform and what may come back. A response comes with its body both as
bytes and as the text that the HTTP library reads in them.
-/

set_option autoImplicit false

namespace ArtifactAudit.Platform

/-- The methods of requests. -/
inductive Method where
  /-- Reads a resource. -/
  | get
  /-- Creates a resource. -/
  | post
  deriving DecidableEq, Repr

def Method.name : Method → String
  | get => "GET"
  | post => "POST"

/-- What a request carries. -/
inductive Body where
  /-- Nothing. -/
  | empty
  | json (value : Json.Value)
  /-- A file as the only part of a form. -/
  | upload (fileName : String) (content : List UInt8)

/-- A request to the platform. -/
structure Request where
  method : Method
  /-- Where it is sent. -/
  location : Url.Location
  /-- The credentials, as they stand in the header. -/
  authorization : Option String
  /-- What is sent along. -/
  body : Body

/-- What stops the program when a body has no text. -/
def bodyFault : BodyError → Fault
  | .parameters (.longNumber error) => .value error.message
  | .parameters .mixedNumbers => .wrongKind
  | .parameters .nullCharacter => .value "embedded null character"
  | .undecodable => .undecodable
  | .transform => .transform
  | .cipher => .wrongKind

/-- The text of a body, read in the encoding that its content type names. -/
def readBody (contentType : Option String) (body : List UInt8) : Except Fault String :=
  match Charset.bodyText contentType body with
  | .ok text => .ok (String.ofList text)
  | .error error => .error (bodyFault error)

/-- A response of the platform. -/
structure Response where
  status : Int
  body : List UInt8
  /-- The content type, if one was given. -/
  contentType : Option String
  /-- The body as a text, or what stops a program that asks for the text. The HTTP library reads
  it, and it knows more encodings than `Charset` does, so any reading is possible. Unless
  another one is given it is that of `Charset`, which is the library's as long as the content
  type names an encoding that `Charset` knows or none that the library knows. -/
  text : Except Fault String := readBody contentType body

/-- What may follow a request. -/
inductive Answer where
  | response (response : Response)
  /-- No response, for a reason. -/
  | failed (reason : String)
  /-- A fault of the connection. -/
  | fault (fault : Fault)

end ArtifactAudit.Platform
