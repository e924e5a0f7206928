import ArtifactAudit.Platform.Record

/-!
# The records of the platform

Pipelines, runs and artifacts, as the platform reports them, and what is sent to
upload a pipeline and to start a run.
-/

set_option autoImplicit false

namespace ArtifactAudit.Platform

/-! ## Runs -/

inductive RunState where
  | unspecified
  | pending
  | running
  | succeeded
  | skipped
  | failed
  | canceling
  | canceled
  | paused
  deriving DecidableEq, Repr

namespace RunState

/-- Every state. -/
def all : List RunState :=
  [unspecified, pending, running, succeeded, skipped, failed, canceling, canceled, paused]

/-- The platform's word for a state. -/
def word : RunState → String
  | unspecified => "RUNTIME_STATE_UNSPECIFIED"
  | pending => "PENDING"
  | running => "RUNNING"
  | succeeded => "SUCCEEDED"
  | skipped => "SKIPPED"
  | failed => "FAILED"
  | canceling => "CANCELING"
  | canceled => "CANCELED"
  | paused => "PAUSED"

/-- The short name of a state. -/
def name : RunState → String
  | unspecified => "UNSPECIFIED"
  | state => state.word

/-- The state that a word stands for. -/
def ofWord? (word : String) : Option RunState :=
  all.find? (·.word == word)

/-- The state that a value names, or a message that it names none. -/
def named : Json.Value → Except String RunState
  | .string word => match ofWord? word with
    | some state => .ok state
    | none => .error s!"{Text.quoted word} is not a valid RunState"
  | value => .error s!"{value.shown} is not a valid RunState"

/-- Whether a run in this state has ended. -/
def isTerminal : RunState → Bool
  | succeeded | skipped | failed | canceled => true
  | _ => false

/-- The state in a run's record. Whatever is no known word leaves the state
unspecified. -/
def read : Json.Value → Checked RunState
  | .string word => .ok ((ofWord? word).getD unspecified)
  | _ => .ok unspecified

end RunState

structure Run where
  runId : String
  /-- The name shown to users. -/
  displayName : Option String
  state : RunState
  deriving DecidableEq, Repr

def Run.read : Json.Value → Checked Run :=
  readRecord fun fields =>
    (Checked.both (required "run_id" (readText 1) fields)
      (Checked.both (optional "display_name" none readOptionalText fields)
        (optional "state" .unspecified RunState.read fields))).map
      fun (runId, displayName, state) => { runId, displayName, state }

/-! ## Pipelines -/

structure Pipeline where
  pipelineId : String
  /-- The name shown to users. -/
  displayName : String
  deriving DecidableEq, Repr

def Pipeline.read : Json.Value → Checked Pipeline :=
  readRecord fun fields =>
    (Checked.both (required "pipeline_id" (readText 0) fields)
      (optional "display_name" "" (readText 0) fields)).map
      fun (pipelineId, displayName) => { pipelineId, displayName }

/-- A page of the listing of pipelines. -/
structure PipelineListing where
  /-- The pipelines of the page. -/
  pipelines : List Pipeline
  /-- What asks for the next page. -/
  nextPageToken : Option String
  deriving DecidableEq, Repr

/-- Reads a page of the listing of pipelines. -/
def PipelineListing.read : Json.Value → Checked PipelineListing :=
  readRecord fun fields =>
    (Checked.both (optional "pipelines" [] (readList Pipeline.read) fields)
      (optional "next_page_token" none readOptionalText fields)).map
      fun (pipelines, nextPageToken) => { pipelines, nextPageToken }

/-! ## Artifacts -/

/-- An artifact, as a listing or its own page shows it. -/
structure Artifact where
  artifactId : String
  /-- Where it can be downloaded; a listing may hold a placeholder. -/
  downloadUrl : String
  deriving DecidableEq, Repr

def Artifact.read : Json.Value → Checked Artifact :=
  readRecord fun fields =>
    (Checked.both (required "artifact_id" (readText 1) fields)
      (optional "download_url" "" (readText 0) fields)).map
      fun (artifactId, downloadUrl) => { artifactId, downloadUrl }

structure ArtifactListing where
  artifacts : List Artifact
  deriving DecidableEq, Repr

/-- Reads the listing of artifacts. A deployment without artifacts is reported
with `null` for the list. -/
def ArtifactListing.read : Json.Value → Checked ArtifactListing :=
  readRecord fun fields =>
    (optional "artifacts" []
      (fun value => match value with
        | .null => .ok []
        | value => readList Artifact.read value) fields).map
      ArtifactListing.mk

/-! ## What is sent -/

/-- A pipeline definition to upload. -/
structure Submission where
  /-- The name shown to users. -/
  name : String
  /-- The file with the definition. -/
  definition : Path
  deriving DecidableEq, Repr

def Submission.read : Json.Value → Checked Submission :=
  readRecord fun fields =>
    (Checked.both (required "name" (readText 1) fields)
      (required "definition_file" readPath fields)).map
      fun (name, definition) => { name, definition }

/-- The submission of a file under a name, which must not be empty. -/
def Submission.make (name file : String) : Checked Submission :=
  read (.object [("name", .string name), ("definition_file", .string file)])

/-- A request to run an uploaded pipeline. -/
structure RunRequest where
  pipelineId : String
  /-- The name of the run shown to users. -/
  displayName : String
  deriving DecidableEq, Repr

def RunRequest.read : Json.Value → Checked RunRequest :=
  readRecord fun fields =>
    (Checked.both (required "pipeline_id" (readText 1) fields)
      (required "display_name" (readText 1) fields)).map
      fun (pipelineId, displayName) => { pipelineId, displayName }

/-- A request to run a pipeline under a name; neither may be empty. -/
def RunRequest.make (pipelineId displayName : String) : Checked RunRequest :=
  read (.object [("pipeline_id", .string pipelineId), ("display_name", .string displayName)])

def RunRequest.body (request : RunRequest) : Json.Value :=
  .object
    [("display_name", .string request.displayName),
      ("pipeline_version_reference", .object [("pipeline_id", .string request.pipelineId)])]

end ArtifactAudit.Platform
