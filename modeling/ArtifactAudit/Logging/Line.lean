/-!
# Log lines

A line of the log has a level and a text.
-/

set_option autoImplicit false

namespace ArtifactAudit.Logging

/-- How grave a log line is. -/
inductive Level where
  | notSet
  | debug
  | info
  | warning
  | error
  | critical
  deriving DecidableEq, Repr

def Level.name : Level → String
  | notSet => "NOTSET"
  | debug => "DEBUG"
  | info => "INFO"
  | warning => "WARNING"
  | error => "ERROR"
  | critical => "CRITICAL"

/-- The rank of a level. -/
def Level.severity : Level → Nat
  | notSet => 0
  | debug => 10
  | info => 20
  | warning => 30
  | error => 40
  | critical => 50

/-- A line of the log. -/
structure Line where
  /-- How grave it is. -/
  level : Level
  /-- What it says. -/
  text : String
  deriving DecidableEq, Repr

end ArtifactAudit.Logging
