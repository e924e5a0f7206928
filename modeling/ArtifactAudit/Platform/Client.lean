import ArtifactAudit.Encoding.Percent
import ArtifactAudit.Platform.Model
import ArtifactAudit.Script.Basic
import ArtifactAudit.Settings.Config

/-!
# The platform client

Every operation sends its requests one after the other, demands the status 200
and a body of the expected form, and fails otherwise. Listings are followed page
by page, an uploaded pipeline is looked up a number of times, and a run is polled
until it ends or its time is up.

Following pages and polling may go on for ever; `patience` bounds both, and any bound may be
set.
-/

set_option autoImplicit false

namespace ArtifactAudit.Platform

/-- The patience of whoever sets none. -/
def usualPatience : Nat := 1000000

/-- A connection to the platform. -/
structure Client where
  base : Url.Base
  /-- The credentials sent with every request. -/
  authorization : Option String
  /-- The pause between two polls, in seconds. -/
  pollInterval : Float
  /-- How often a pipeline is looked up. -/
  lookupAttempts : Int
  /-- How long a run may take, in seconds. -/
  runTimeout : Float
  /-- Whether the connection is closed. -/
  closed : Bool := false
  /-- How many pages of a listing, or polls of a run, are requested at most. -/
  patience : Nat := usualPatience

/-- The part of every path that names the interface. -/
def apiRoot : String := "/apis/v2beta1"

namespace Client

/-- The client for a configuration, with a patience. The credentials in the base URL count
more than the token. -/
def ofConfig (config : PlatformConfig) (patience : Nat := usualPatience) :
    Except Fault Client :=
  match Url.Base.ofText? config.apiUrl with
  | none => .error .invalidUrl
  | some base =>
    let token := config.token.filter (!·.isEmpty)
    if token.any fun token => !token.toList.all Percent.isAscii then .error .unencodable
    else .ok
      { base
        authorization := base.credentials?.or (token.map ("Bearer " ++ ·))
        pollInterval := config.pollInterval
        lookupAttempts := config.lookupAttempts
        runTimeout := config.runTimeout
        patience }

/-- The client with its connection closed. -/
def close (client : Client) : Client :=
  { client with closed := true }

/-! ## Requests -/

/-- A response with status 200, and the location that gave it. -/
structure Reply where
  /-- Where the response comes from. -/
  location : Url.Location
  response : Response

/-- The location of a request. A parameter replaces every other query. -/
def locate? (client : Client) (path : String) (parameter : Option (String × String)) :
    Option Url.Location :=
  client.base.resolve? path.toList (parameter.map fun (key, value) => Form.parameter key value)

/-- Sends a request and demands a response with status 200. Cookies are looked for
in every response, so its location must be one that cookies can come from. -/
def send (client : Client) (method : Method) (path : String)
    (parameter : Option (String × String)) (body : Body) : Script Reply :=
  match client.locate? path parameter with
  | none => .crash .invalidUrl
  | some location =>
    if !location.isSendable then .crash .unencodable
    else if client.closed then .crash .closed
    else
      .ask (.request { method, location, authorization := client.authorization, body })
        fun answer => match answer with
          | .failed reason =>
            .fail (.request (.transport s!"{method.name} {path} failed: {reason}"))
          | .fault fault => .crash fault
          | .response response =>
            match location.checkOrigin with
            | .error error => .crash (.value error.message)
            | .ok () =>
              if response.status = 200 then .done { location, response }
              else
                match response.text with
                | .ok text =>
                  .fail (.request (.unexpectedStatus response.status location.text text))
                | .error fault => .crash fault

/-- Reads a record from a body that came from `url`. `name` names the kind of
record. -/
def decodeBody {α : Type} (name : String) (read : Json.Value → Checked α) (url : String)
    (body : List UInt8) : Except Failure α :=
  match decode read body with
  | .ok record => .ok record
  | .error defects =>
    .error
      (.request
        (.malformedResponse s!"Could not decode {name} from {url}: {Defect.summary defects}"))

/-- Reads a record from a reply. -/
def decodeReply {α : Type} (name : String) (read : Json.Value → Checked α) (reply : Reply) :
    Except Failure α :=
  decodeBody name read reply.location.text reply.response.body

/-- Requests a record. -/
def fetch {α : Type} (client : Client) (name : String) (read : Json.Value → Checked α)
    (path : String) (parameter : Option (String × String)) : Script α := do
  let reply ← client.send .get path parameter .empty
  .ofExcept (decodeReply name read reply)

/-! ## Pipelines -/

/-- Uploads a pipeline definition. -/
def uploadPipeline (client : Client) (submission : Submission) : Script Unit := do
  let file := submission.definition.text
  match ← Script.perform (.content file) with
  | .fault fault => .crash fault
  | .unreadable error =>
    .fail (.submission s!"Cannot read pipeline definition {file}: {error.text}" none)
  | .content bytes =>
    .log .info s!"Uploading pipeline '{submission.name}' from {file}"
    discard <| client.send .post (apiRoot ++ "/pipelines/upload") (some ("name", submission.name))
      (.upload submission.definition.name bytes)

/-- Requests a page of the listing of pipelines. -/
def listPage (client : Client) (token : Option String) : Script PipelineListing :=
  client.fetch "PipelineListing" PipelineListing.read (apiRoot ++ "/pipelines")
    (token.map fun token => ("page_token", token))

/-- The token that asks for the next page, if there is a next page. -/
def PipelineListing.continuation? (listing : PipelineListing) : Option String :=
  listing.nextPageToken.filter (!·.isEmpty)

/-- Lists the pipelines from a page on, after those `listed` before it. -/
def listFrom (client : Client) :
    (patience : Nat) → (token : Option String) → (listed : List Pipeline) → Script (List Pipeline)
  | 0, _, _ => .crash .outOfPatience
  | patience + 1, token, listed => do
    let listing ← client.listPage token
    match PipelineListing.continuation? listing with
    | none => return listed ++ listing.pipelines
    | some token => client.listFrom patience (some token) (listed ++ listing.pipelines)

/-- Lists all pipelines, page by page. -/
def listPipelines (client : Client) : Script (List Pipeline) :=
  client.listFrom client.patience none []

/-- How often a pipeline is looked up: at least once. -/
def attempts (client : Client) : Nat :=
  (max 1 client.lookupAttempts).toNat

/-- Looks a pipeline up with some attempts left. -/
def findWithin (client : Client) (name : String) : (left : Nat) → Script String
  | 0 => .fail (.pipelineNotFound s!"No pipeline named '{name}' after {client.attempts} attempts")
  | left + 1 => do
    let pipelines ← client.listPipelines
    match pipelines.find? (·.displayName == name) with
    | some pipeline =>
      .log .info s!"Resolved pipeline '{name}' to {pipeline.pipelineId}"
      return pipeline.pipelineId
    | none =>
      let attempt := client.attempts - left
      .log .debug s!"Pipeline '{name}' not listed yet (attempt {attempt}/{client.attempts})"
      if 0 < left then Script.sleep client.pollInterval
      client.findWithin name left

/-- The identifier of the first pipeline with a name. A pipeline may not be
listed right after its upload, so the lookup is repeated. -/
def findPipelineId (client : Client) (name : String) : Script String :=
  client.findWithin name client.attempts

/-! ## Runs -/

/-- Starts a run of a pipeline. -/
def createRun (client : Client) (request : RunRequest) : Script Run := do
  .log .info s!"Creating run '{request.displayName}' for pipeline {request.pipelineId}"
  let reply ← client.send .post (apiRoot ++ "/runs") none (.json request.body)
  .ofExcept (decodeReply "Run" Run.read reply)

/-- Requests a run. -/
def getRun (client : Client) (runId : String) : Script Run :=
  client.fetch "Run" Run.read (apiRoot ++ "/runs/" ++ runId) none

/-- Polls a run until it ends or the clock reaches the deadline. -/
def pollUntil (client : Client) (runId : String) (deadline : Float) :
    (patience : Nat) → Script Run
  | 0 => .crash .outOfPatience
  | patience + 1 => do
    let run ← client.getRun runId
    if run.state.isTerminal then
      if run.state = .succeeded then
        .log .info s!"Run {runId} succeeded"
        return run
      else .fail (.runFailed runId run.state.word)
    else
      let now ← Script.perform .clock
      if deadline ≤ now then .fail (.runTimeout runId client.runTimeout (some run.state.word))
      else
        .log .debug s!"Run {runId} is {run.state.word}, waiting"
        Script.sleep client.pollInterval
        client.pollUntil runId deadline patience

/-- Waits for a run to succeed. -/
def waitForRun (client : Client) (runId : String) : Script Run := do
  let start ← Script.perform .clock
  client.pollUntil runId (start + client.runTimeout) client.patience

/-! ## Artifacts -/

/-- Lists the artifacts of a deployment. -/
def listArtifacts (client : Client) (deployment : String) : Script (List Artifact) := do
  let listing ← client.fetch "ArtifactListing" ArtifactListing.read (apiRoot ++ "/artifacts")
    (some ("namespace", deployment))
  return listing.artifacts

def artifactPath (artifactId : String) : String :=
  apiRoot ++ "/artifacts/" ++ artifactId

/-- Requests an artifact. -/
def getArtifact (client : Client) (artifactId : String) : Script Artifact :=
  client.fetch "ArtifactDetail" Artifact.read (artifactPath artifactId) none

/-- Requests an artifact with its download address resolved. -/
def getDownload (client : Client) (artifactId : String) : Script Artifact := do
  let reply ← client.send .get (artifactPath artifactId) (some ("view", "DOWNLOAD")) .empty
  match reply.response.text with
  | .ok text => .log .debug s!"Download view for {artifactId}: {text}"
  | .error fault => .crash fault
  .ofExcept (decodeReply "ArtifactDetail" Artifact.read reply)

end Client

end ArtifactAudit.Platform
