import ArtifactAudit.Logging.Template
import ArtifactAudit.Text.Phrase

/-!
# The filter for polls

A run is polled many times, and the HTTP library logs every request. The filter
drops its lines about reading a run and keeps everything else.
-/

set_option autoImplicit false

namespace ArtifactAudit.Logging

/-- A record of the log, before it is formatted. -/
structure Record where
  /-- The logger it was written to. -/
  logger : String
  /-- The text, a template if there are arguments. -/
  message : String
  arguments : List Json.Value := []

/-- The text of a record. Without arguments it is taken as it is. -/
def Record.text (record : Record) : Except TemplateError String :=
  if record.arguments.isEmpty then .ok record.message
  else fillTemplate record.message record.arguments

/-- The logger of the HTTP library. -/
def httpLogger : String := "httpx"

/-- The part of a path that every request for a run holds. -/
def runPath : String := "/apis/v2beta1/runs/"

/-- The method of requests that read. -/
def readMethod : String := "GET"

/-- Whether a text is about reading a run. -/
def isPoll (text : String) : Bool :=
  Text.mentions text runPath && Text.mentions text readMethod

/-- Whether a record passes the filter. Only the records of the HTTP library are
formatted for it. -/
def passes (record : Record) : Except TemplateError Bool :=
  if record.logger == httpLogger then record.text.map fun text => !isPoll text else .ok true

end ArtifactAudit.Logging
