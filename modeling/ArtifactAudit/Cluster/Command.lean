import ArtifactAudit.Fault

/-!
# Commands

A command line that is run to its end or until its time is up.
-/

set_option autoImplicit false

namespace ArtifactAudit.Cluster

/-- A command line with a time limit in seconds. -/
structure Command where
  /-- The program and its arguments. -/
  words : List String
  limit : Float

/-- The command line, words separated by spaces. -/
def Command.line (command : Command) : String :=
  " ".intercalate command.words

/-- What an ended command leaves. -/
structure Finished where
  /-- The bytes it wrote to its output. -/
  output : List UInt8
  /-- The bytes it wrote to its error stream. -/
  errors : List UInt8
  code : Int

/-- What may become of a command. -/
inductive CommandAnswer where
  /-- It ended. -/
  | finished (result : Finished)
  /-- Its time was up. -/
  | timedOut
  /-- The system could not start it. -/
  | notStarted (error : SystemError)
  /-- Its words cannot be passed on. -/
  | fault (fault : Fault)

end ArtifactAudit.Cluster
