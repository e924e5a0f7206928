import ArtifactAudit.Fault
import ArtifactAudit.Number.Literal
import ArtifactAudit.Platform.Record

/-!
# Outcomes and failures as records

Outcomes are written down as records, and read back field by field.

A failure is written down as its kind, its message and its details by name. A
record can also be made from a kind and arguments, given in order or by name: the
details of the kind, or the message of a kind without details. Arguments may be
any values; only those that cannot be put into words are refused.
-/

set_option autoImplicit false

namespace ArtifactAudit

def Outcome.read : Json.Value → Platform.Checked Outcome :=
  Platform.readRecord fun fields =>
    (Platform.Checked.both (Platform.required "artifact_id" (Platform.readText 0) fields)
      (Platform.Checked.both (Platform.required "succeeded" Platform.readTruth fields)
        (Platform.Checked.both
          (Platform.optional "message" none Platform.readOptionalText fields)
          (Platform.optional "download_url" none Platform.readOptionalText fields)))).map
      fun (artifactId, succeeded, message, downloadUrl) =>
        { artifactId, succeeded, message, downloadUrl }

def Outcome.record (outcome : Outcome) : Json.Value :=
  let optional (text : Option String) : Json.Value := (text.map Json.Value.string).getD .null
  .object
    [("artifact_id", .string outcome.artifactId), ("succeeded", .bool outcome.succeeded),
      ("message", optional outcome.message), ("download_url", optional outcome.downloadUrl)]

/-- A failure as it is written down. -/
structure FailureRecord where
  kind : Failure.Kind
  message : String
  /-- The details, by name. -/
  details : List (String × Json.Value) := []

def Failure.details : Failure → List (String × Json.Value)
  | .request (.unexpectedStatus status url body) =>
    [("status_code", .int status), ("url", .string url), ("body", .string body)]
  | .runFailed runId state => [("run_id", .string runId), ("state", .string state)]
  | .runTimeout runId limit lastState =>
    [("run_id", .string runId), ("timeout", .float limit),
      ("last_state", (lastState.map Json.Value.string).getD .null)]
  | .accessDenied artifactId output =>
    [("artifact_id", .string artifactId), ("output", .string output)]
  | .verificationFailed failures => [("failures", .array (failures.map Outcome.record))]
  | _ => []

def Failure.record (failure : Failure) : FailureRecord where
  kind := failure.kind
  message := failure.message
  details := failure.details

namespace FailureRecord

/-! ## Arguments -/

/-- A detail that a kind of failure has, and what stands for it when it is left
out. -/
structure Detail where
  name : String
  /-- What stands for a missing value, if it may be missing. -/
  absent : Option Json.Value := none

/-- The details of a kind of failure; none for a kind that has only a message. -/
def detailsOf : Failure.Kind → Option (List Detail)
  | .unexpectedStatus =>
    some [{ name := "status_code" }, { name := "url" },
      { name := "body", absent := some (.string "") }]
  | .runFailed => some [{ name := "run_id" }, { name := "state" }]
  | .runTimeout =>
    some [{ name := "run_id" }, { name := "timeout" },
      { name := "last_state", absent := some .null }]
  | .accessDenied => some [{ name := "artifact_id" }, { name := "output" }]
  | .verificationFailed => some [{ name := "failures" }]
  | _ => none

/-- What a failure is made from. -/
structure Arguments where
  /-- The arguments in order. -/
  inOrder : List Json.Value := []
  /-- The arguments by name. -/
  byName : List (String × Json.Value) := []

/-- The arguments that a value holds: a list holds them in order, an object by
name. -/
def Arguments.ofValue? : Json.Value → Option Arguments
  | .array items => some { inOrder := items }
  | .object fields => some { byName := fields }
  | _ => none

/-- The arguments as the values of details. Every detail has one value, and every
argument belongs to a detail. -/
def Arguments.bind? (arguments : Arguments) (details : List Detail) :
    Option (List (String × Json.Value)) :=
  let later := details.drop arguments.inOrder.length
  let known := arguments.byName.all fun field => later.any (·.name == field.1)
  if details.length < arguments.inOrder.length || !known then none
  else
    (later.mapM fun detail => (arguments.byName.lookup detail.name).or detail.absent).map
      fun values => (details.map (·.name)).zip (arguments.inOrder ++ values)

/-! ## Messages -/

/-- The opening of a body that a message shows. -/
def shownBody : Json.Value → Except Fault String
  | .string s => .ok (String.ofList (s.toList.take RequestFailure.shownBody))
  | .array items => .ok (Json.Value.array (items.take RequestFailure.shownBody)).text
  | _ => .error .wrongKind

/-- The number of seconds that a value stands for. -/
def seconds : Json.Value → Except Fault Float
  | .float x => .ok x
  | .bool value => .ok (if value then 1 else 0)
  | .int n =>
    let size := Number.nearest n.natAbs 0
    if size.isInf then .error .overflow else .ok (if n < 0 then -size else size)
  | .string s => (Number.readFractional s).mapError fun error => .value error.message
  | _ => .error .wrongKind

def outcomeOf : Json.Value → Except Fault Outcome
  | .object fields => (Outcome.read (.object fields)).mapError .invalid
  | _ => .error .wrongKind

/-- The message of a kind without details: its only argument, or all of them in
brackets. -/
def plainMessage : List Json.Value → String
  | [] => ""
  | [value] => value.text
  | values => "(" ++ ", ".intercalate (values.map (·.shown)) ++ ")"

/-- The record of a kind of failure with its details. -/
def describe (kind : Failure.Kind) (details : List (String × Json.Value)) :
    Except Fault FailureRecord := do
  let value (name : String) : Json.Value := (details.lookup name).getD .null
  let text (name : String) : String := (value name).text
  match kind with
  | .unexpectedStatus =>
    let body ← shownBody (value "body")
    let message := "Unexpected status " ++ text "status_code" ++ " from " ++ text "url" ++ ": "
    return { kind, message := message ++ body, details }
  | .runFailed =>
    let message := "Run " ++ text "run_id" ++ " finished in state " ++ text "state"
    return { kind, message, details }
  | .runTimeout =>
    let limit ← seconds (value "timeout")
    let state := if (value "last_state").isEmpty then "unknown" else text "last_state"
    let message := "Run " ++ text "run_id" ++ s!" not finished after {Number.text limit}s "
    return {
      kind
      message := message ++ s!"(last state: {state})"
      details := Json.setField "timeout" (.float limit) details }
  | .accessDenied =>
    let message := "Access denied downloading artifact " ++ text "artifact_id" ++ ": "
    return { kind, message := message ++ text "output", details }
  | _ =>
    match value "failures" with
    | .array items => return (Failure.verificationFailed (← items.mapM outcomeOf)).record
    | _ => .error .wrongKind

def make (kind : Failure.Kind) (arguments : Arguments) : Except Fault FailureRecord :=
  match detailsOf kind with
  | some details =>
    match arguments.bind? details with
    | some details => describe kind details
    | none => .error .wrongKind
  | none =>
    if arguments.byName.isEmpty then .ok { kind, message := plainMessage arguments.inOrder }
    else .error .wrongKind

end FailureRecord

end ArtifactAudit
