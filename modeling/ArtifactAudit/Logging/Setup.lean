import ArtifactAudit.Json.Value
import ArtifactAudit.Logging.Filter
import ArtifactAudit.Logging.Line
import ArtifactAudit.Text.Upper

/-!
# The setup of the log

The log has two handlers, both on the error stream: one for everything, and one
for the HTTP library, which drops the lines about polls. Loggers have a level
each. `Setup.document` writes the setup in the form that logging systems take,
and `Setup.apply` gives the loggers that come of it.
-/

set_option autoImplicit false

namespace ArtifactAudit.Logging

/-- The level of a name. Two levels have a second name. -/
def Level.ofName? (name : String) : Option Level :=
  [("CRITICAL", critical), ("FATAL", critical), ("ERROR", error), ("WARNING", warning),
    ("WARN", warning), ("INFO", info), ("DEBUG", debug), ("NOTSET", notSet)].lookup name

/-- A destination of log lines. -/
structure Handler where
  name : String
  /-- The name of the format of its lines. -/
  format : String
  /-- The name of its filter, if it has one. -/
  filter : Option String
  deriving DecidableEq, Repr

/-- A logger of the setup. -/
structure Logger where
  name : String
  /-- The name of its level. -/
  level : String
  handler : Handler
  deriving DecidableEq, Repr

/-- The setup of the log. -/
structure Setup where
  /-- The formats, by name. -/
  formats : List (String × String)
  handlers : List Handler
  /-- The loggers below the root. -/
  loggers : List Logger
  root : Logger
  deriving DecidableEq, Repr

/-- The name of the filter for polls in a setup. -/
def pollFilterName : String := "polling_request_filter"

/-- The filter for polls, as a setup refers to it. -/
def pollFilter : String := "PollingRequestFilter"

/-- The handler for everything. -/
def defaultHandler : Handler := ⟨"default", "default", none⟩

/-- The handler for the HTTP library. -/
def httpHandler : Handler := ⟨"http", "http", some pollFilterName⟩

namespace Setup

/-- The setup with a level, which is given in any case. -/
def standard (level : String) : Setup :=
  let level := Text.upper level
  { formats :=
      [("default", "%(asctime)s - %(name)s - %(levelname)s - %(message)s"),
        ("http", "%(asctime)s - %(message)s")]
    handlers := [defaultHandler, httpHandler]
    loggers :=
      [⟨httpLogger, level, httpHandler⟩, ⟨"httpcore", "WARNING", defaultHandler⟩,
        ⟨"artifact_probe", level, defaultHandler⟩]
    root := ⟨"root", level, defaultHandler⟩ }

def handlerDocument (handler : Handler) : Json.Value :=
  .object
    ([("class", .string "logging.StreamHandler"), ("formatter", .string handler.format),
      ("stream", .string "ext://sys.stderr")] ++
      (handler.filter.map fun name => ("filters", Json.Value.array [.string name])).toList)

/-- A logger below the root in the document. -/
def loggerDocument (logger : Logger) : Json.Value :=
  .object
    [("handlers", .array [.string logger.handler.name]), ("level", .string logger.level),
      ("propagate", .bool false)]

def document (setup : Setup) : Json.Value :=
  .object
    [("version", .int 1), ("disable_existing_loggers", .bool false),
      ("filters", .object [(pollFilterName, .object [("()", .string pollFilter)])]),
      ("formatters",
        .object
          (setup.formats.map fun (name, format) => (name, .object [("format", .string format)]))),
      ("handlers",
        .object (setup.handlers.map fun handler => (handler.name, handlerDocument handler))),
      ("loggers", .object (setup.loggers.map fun logger => (logger.name, loggerDocument logger))),
      ("root",
        .object
          [("level", .string setup.root.level),
            ("handlers", .array [.string setup.root.handler.name])])]

/-- A logger that is set up. -/
structure Applied where
  name : String
  level : Level
  /-- Whether its lines also go to the loggers above it. -/
  propagates : Bool
  /-- The filters of each of its handlers. -/
  filters : List (List String)
  deriving DecidableEq, Repr

/-- A logger that cannot be set up, since its level has no such name. -/
structure Refused where
  /-- The name of the logger. -/
  logger : String
  deriving DecidableEq, Repr

/-- The message about a logger that cannot be set up. -/
def Refused.message (refused : Refused) : String :=
  s!"Unable to configure logger '{refused.logger}'"

/-- Sets a logger up. -/
def applyLogger (propagates : Bool) (logger : Logger) : Except Refused Applied :=
  match Level.ofName? logger.level with
  | some level =>
    .ok
      { name := logger.name, level, propagates
        filters := [(logger.handler.filter.map fun _ => pollFilter).toList] }
  | none => .error ⟨logger.name⟩

/-- Sets all loggers up, the root last. -/
def apply (setup : Setup) : Except Refused (List Applied) :=
  (setup.loggers.mapM (applyLogger false)).bind fun loggers =>
    (applyLogger true setup.root).map fun root => root :: loggers

end Setup

end ArtifactAudit.Logging
