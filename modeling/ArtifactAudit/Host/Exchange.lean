import ArtifactAudit.Encoding.Hex
import ArtifactAudit.Scenario.Report
import ArtifactAudit.Script.Basic

/-!
# Exchanges with a host

A program that has no network and starts no commands leaves both to a host. It
writes each request, command and question about a file as a JSON document and
reads the answer from one. Bytes are written in hexadecimal digits. An answer
that cannot be read counts as a refusal.
-/

set_option autoImplicit false

namespace ArtifactAudit.Host

def bytesDocument (bytes : List UInt8) : Json.Value :=
  .string (String.ofList (Hex.encode bytes))

/-- A text that may be missing, in a document. -/
def optionalDocument : Option String → Json.Value
  | some text => .string text
  | none => .null

/-! ## Questions -/

/-- What a request carries, as a document. -/
def bodyDocument : Platform.Body → Json.Value
  | .empty => .null
  | .json value => .object [("json", value)]
  | .upload fileName content =>
    .object [("file_name", .string fileName), ("content", bytesDocument content)]

def requestDocument (request : Platform.Request) : Json.Value :=
  .object
    [("ask", .string "request"), ("method", .string request.method.name),
      ("url", .string request.location.text),
      ("authorization", optionalDocument request.authorization),
      ("body", bodyDocument request.body)]

def commandDocument (command : Cluster.Command) : Json.Value :=
  .object
    [("ask", .string "command"), ("words", .array (command.words.map Json.Value.string)),
      ("limit", .float command.limit)]

/-- A question about a file as a document. -/
def fileDocument (question path : String) : Json.Value :=
  .object [("ask", .string question), ("path", .string path)]

def printedDocument : Scenario.Printed → Json.Value
  | .line markup => .object [("print", .string "line"), ("markup", .string markup)]
  | .table title columns rows =>
    .object
      [("print", .string "table"), ("title", .string title),
        ("columns", .array (columns.map Json.Value.string)),
        ("rows", .array (rows.map fun row => .array (row.map Json.Value.string)))]

/-! ## Answers -/

def text? (answer : Json.Value) (key : String) : Option String :=
  match answer.field? key with
  | some (.string text) => some text
  | _ => none

/-- A whole number in an answer. -/
def whole? (answer : Json.Value) (key : String) : Option Int :=
  match answer.field? key with
  | some (.int number) => some number
  | _ => none

def bytes? (answer : Json.Value) (key : String) : Option (List UInt8) :=
  (text? answer key).bind fun digits => Hex.decode? digits.toList

/-- The refusal that an answer tells of. What tells of none counts as an error of
input or output. -/
def refusal (answer : Json.Value) : SystemError :=
  { number := (whole? answer "errno").getD 5
    description := (text? answer "description").getD "Input/output error"
    subject := text? answer "subject" }

/-- An answer to a request. -/
def platformAnswer (answer : Json.Value) : Platform.Answer :=
  match whole? answer "status", bytes? answer "body" with
  | some status, some body =>
    .response { status, body, contentType := text? answer "content_type" }
  | _, _ => .failed ((text? answer "failed").getD "")

def commandAnswer (answer : Json.Value) : Cluster.CommandAnswer :=
  match bytes? answer "output", bytes? answer "errors", whole? answer "code" with
  | some output, some errors, some code => .finished { output, errors, code }
  | _, _, _ =>
    match answer.field? "timed_out" with
    | some (.bool true) => .timedOut
    | _ => .notStarted (refusal answer)

/-- An answer to a question for the content of a file. -/
def fileAnswer (answer : Json.Value) : FileAnswer :=
  match bytes? answer "content" with
  | some bytes => .content bytes
  | none => .unreadable (refusal answer)

/-- An answer to a question for what a path leads to. -/
def fileStatus (answer : Json.Value) : FileStatus :=
  match text? answer "status" with
  | some "directory" => .directory
  | some "file" => .file
  | _ => .missing

end ArtifactAudit.Host
