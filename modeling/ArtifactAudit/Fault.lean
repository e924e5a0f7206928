import ArtifactAudit.Failure
import ArtifactAudit.Platform.Defect
import ArtifactAudit.Text.Quoted

/-!
# Faults

A failure is an expected outcome of an audit: it is collected or ends the
scenario in order. A fault is anything else that stops the program, such as an
address that cannot be requested or a value of the wrong kind where nothing
checks it. Nothing in a scenario recovers from a fault.

A refusal of the operating system may come to either. It has a number, a description
and, where it concerns one, the file.
-/

set_option autoImplicit false

namespace ArtifactAudit

/-- A refusal of the operating system. -/
structure SystemError where
  /-- The number of the error. -/
  number : Int
  description : String
  subject : Option String := none
  deriving DecidableEq, Repr

/-- The error as messages show it. -/
def SystemError.text (error : SystemError) : String :=
  s!"[Errno {error.number}] {error.description}" ++
    (error.subject.map fun subject => ": " ++ Text.quoted subject).getD ""

/-- What stops the program without being a failure. -/
inductive Fault where
  /-- A value was refused. -/
  | value (message : String)
  /-- A record has defects. -/
  | invalid (defects : List Platform.Defect)
  /-- An address cannot be requested. -/
  | invalidUrl
  /-- Two cookies of an answer conflict. -/
  | cookieConflict
  /-- A value has a kind that the operation does not take. -/
  | wrongKind
  /-- A value has no fields to look up. -/
  | noFields
  /-- A list was expected where a record stands. -/
  | noPosition
  /-- A number is too great. -/
  | overflow
  /-- The connection to the platform is closed. -/
  | closed
  /-- A header value cannot be encoded. -/
  | unencodable
  /-- Bytes cannot be read as text. -/
  | undecodable
  /-- Bytes are said to be in a form that is none of text. -/
  | transform
  /-- A document is nested too deep. -/
  | tooDeep
  /-- A loop used up its patience. -/
  | outOfPatience

/-- Why a procedure stops early. -/
inductive Halt where
  /-- It failed. -/
  | failure (failure : Failure)
  /-- A fault stopped it. -/
  | fault (fault : Fault)

end ArtifactAudit
