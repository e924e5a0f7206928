import ArtifactAudit.Encoding.Utf8
import ArtifactAudit.Script.Basic
import ArtifactAudit.Settings.Config

/-!
# Running kubectl

Every command for the cluster names the credentials and the context of the
configuration. What a command writes is read as UTF-8 with ill-formed parts
replaced, since it may be the body of a download, and with one spelling of the line end:
a carriage return, alone or before a line feed, becomes a line feed.
-/

set_option autoImplicit false

namespace ArtifactAudit

/-- The text with every line end written as a line feed. A line feed that
follows a carriage return belongs to the same line end and is dropped. -/
def Text.unifyNewlines (s : List Char) : List Char :=
  (s.zip (' ' :: s)).filterMap fun (c, previous) =>
    if c = '\n' && previous = '\r' then none
    else some (if c = '\r' then '\n' else c)

namespace Cluster

/-- A flag with its value, if the value is not empty. -/
def flag (name : String) (value : Option String) : List String :=
  match value with
  | some value => if value.isEmpty then [] else [name, value]
  | none => []

/-- The words every command begins with. -/
def baseCommand (config : KubectlConfig) : List String :=
  config.binary :: flag "--kubeconfig" config.kubeconfig ++ flag "--context" config.context

def runKubectl (config : KubectlConfig) (arguments : List String) (limit : Float) :
    Script CommandAnswer := do
  let command : Command := { words := baseCommand config ++ arguments, limit }
  .log .debug s!"Running: {command.line}"
  .perform (.command command)

def capturedText (bytes : List UInt8) : String :=
  String.ofList (Text.unifyNewlines (Utf8.decode bytes))

/-- What an ended command wrote. -/
structure Captured where
  output : String
  errors : String
  code : Int
  deriving DecidableEq, Repr

/-- What an ended command wrote, as texts. -/
def Finished.captured (finished : Finished) : Captured where
  output := capturedText finished.output
  errors := capturedText finished.errors
  code := finished.code

end Cluster

end ArtifactAudit
