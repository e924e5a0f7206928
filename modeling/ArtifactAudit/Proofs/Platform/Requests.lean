import ArtifactAudit.Proofs.Platform.Operations
import ArtifactAudit.Proofs.Script.Observation
import ArtifactAudit.Proofs.Text.Pieces
import ArtifactAudit.Proofs.Url.Segments

/-!
# The requests of the client

Every operation of the client sends requests of one kind: with one method, for one path, which
holds nothing but fixed segments and perhaps an identifier as the last one. What else an
operation is given goes into a parameter or into the body (`perform_asks`).
-/

set_option autoImplicit false

namespace ArtifactAudit.Platform

open Url Client

/-- A request is sent exactly if it is seen with an answer. -/
theorem mem_requestsOf_iff {events : List Event} {request : Request} :
    request ∈ requestsOf events ↔ ∃ answer, Act.request request answer ∈ actsOf events := by
  constructor
  · intro sent
    obtain ⟨⟨call, answer⟩, happened, shown⟩ := List.mem_filterMap.mp sent
    cases call <;> cases shown
    exact ⟨answer, List.mem_filterMap.mpr ⟨_, happened, rfl⟩⟩
  · rintro ⟨answer, seen⟩
    exact List.mem_filterMap.mpr ⟨_, mem_of_request_mem_actsOf seen, rfl⟩

/-! ## Operations -/

/-- The operations of the client. -/
inductive Operation where
  | uploadPipeline (submission : Submission)
  | listPipelines
  | findPipelineId (name : String)
  | createRun (request : RunRequest)
  | getRun (runId : String)
  | waitForRun (runId : String)
  | listArtifacts (deployment : String)
  | getArtifact (artifactId : String)
  | getDownload (artifactId : String)

/-- Whether an identifier is a single segment of a path, and no dot segment. -/
structure IsPlainSegment (id : List Char) : Prop where
  single : '/' ∉ id
  unasked : '?' ∉ id
  unmarked : '#' ∉ id
  plain : isDotSegment id = false

instance (id : List Char) : Decidable (IsPlainSegment id) :=
  decidable_of_iff ('/' ∉ id ∧ '?' ∉ id ∧ '#' ∉ id ∧ isDotSegment id = false)
    ⟨fun ⟨single, unasked, unmarked, plain⟩ => ⟨single, unasked, unmarked, plain⟩,
      fun ⟨single, unasked, unmarked, plain⟩ => ⟨single, unasked, unmarked, plain⟩⟩

namespace Operation

/-- What an operation gives. -/
abbrev Result : Operation → Type
  | uploadPipeline _ => Unit
  | listPipelines => List Pipeline
  | findPipelineId _ => String
  | createRun _ | getRun _ | waitForRun _ => Run
  | listArtifacts _ => List Artifact
  | getArtifact _ | getDownload _ => Artifact

/-- Whether an operation reads a run. -/
def isPoll : Operation → Bool
  | getRun _ | waitForRun _ => true
  | _ => false

def method : Operation → Method
  | uploadPipeline _ | createRun _ => .post
  | _ => .get

/-- The path of the requests. -/
def path : Operation → String
  | uploadPipeline _ => apiRoot ++ "/pipelines/upload"
  | listPipelines | findPipelineId _ => pipelinesPath
  | createRun _ => apiRoot ++ "/runs"
  | getRun runId | waitForRun runId => runPath runId
  | listArtifacts _ => artifactsPath
  | getArtifact artifactId | getDownload artifactId => artifactPath artifactId

/-- The segments of the path but for the last one. -/
def branch : Operation → List String
  | uploadPipeline _ => ["apis", "v2beta1", "pipelines"]
  | listPipelines | findPipelineId _ | createRun _ | listArtifacts _ => ["apis", "v2beta1"]
  | getRun _ | waitForRun _ => ["apis", "v2beta1", "runs"]
  | getArtifact _ | getDownload _ => ["apis", "v2beta1", "artifacts"]

/-- The last segment of the path. -/
def leaf : Operation → String
  | uploadPipeline _ => "upload"
  | listPipelines | findPipelineId _ => "pipelines"
  | createRun _ => "runs"
  | listArtifacts _ => "artifacts"
  | getRun id | waitForRun id | getArtifact id | getDownload id => id

/-- The segments of the path. -/
def segments (operation : Operation) : List (List Char) :=
  (operation.branch ++ [operation.leaf]).map String.toList

/-- Whether the identifiers that an operation is given are single segments. -/
def IsPlain (operation : Operation) : Prop :=
  IsPlainSegment operation.leaf.toList

instance (operation : Operation) : Decidable operation.IsPlain :=
  inferInstanceAs (Decidable (IsPlainSegment _))

theorem path_eq (operation : Operation) :
    operation.path.toList = '/' :: Text.joinPieces '/' operation.segments := by
  have under : ∀ front id : String, (front ++ id).toList = front.toList ++ id.toList :=
    fun front id => String.toList_append
  cases operation with
  | uploadPipeline =>
    change (apiRoot ++ "/pipelines/upload").toList =
      '/' :: Text.joinPieces '/' (["apis", "v2beta1", "pipelines", "upload"].map String.toList)
    decide
  | listPipelines | findPipelineId =>
    change pipelinesPath.toList =
      '/' :: Text.joinPieces '/' (["apis", "v2beta1", "pipelines"].map String.toList)
    decide
  | createRun =>
    change (apiRoot ++ "/runs").toList =
      '/' :: Text.joinPieces '/' (["apis", "v2beta1", "runs"].map String.toList)
    decide
  | listArtifacts =>
    change artifactsPath.toList =
      '/' :: Text.joinPieces '/' (["apis", "v2beta1", "artifacts"].map String.toList)
    decide
  | getRun id | waitForRun id | getArtifact id | getDownload id =>
    refine (under _ id).trans ?_
    simp [segments, branch, leaf, Text.joinPieces, apiRoot]

/-- Only the path of a run has the segment of the runs before the last one. -/
theorem runs_mem_branch_iff (operation : Operation) :
    "runs" ∈ operation.branch ↔ operation.isPoll = true := by
  cases operation <;> simp [branch, isPoll]

/-- What reads a run is sent with the method for reading, under the segment of the runs. -/
theorem sent_of_isPoll {operation : Operation} (poll : operation.isPoll = true) :
    operation.method = .get ∧ operation.branch = ["apis", "v2beta1", "runs"] := by
  cases operation with
  | getRun | waitForRun => exact ⟨rfl, rfl⟩
  | uploadPipeline | listPipelines | findPipelineId | createRun | listArtifacts | getArtifact
  | getDownload => cases poll

/-- The segments of which the branches are made. -/
def names : List String := ["apis", "v2beta1", "pipelines", "runs", "artifacts"]

theorem branch_subset (operation : Operation) : operation.branch ⊆ names := by
  cases operation <;> simp [branch, names]

theorem plain_of_mem_segments {operation : Operation} (plain : operation.IsPlain)
    {segment : List Char} (among : segment ∈ operation.segments) : IsPlainSegment segment := by
  have named : ∀ name ∈ names, IsPlainSegment name.toList := by decide
  obtain ⟨name, listed, rfl⟩ := List.mem_map.mp among
  rcases List.mem_append.mp listed with listed | last
  · exact named name (operation.branch_subset listed)
  · obtain rfl := List.mem_singleton.mp last
    exact plain

/-- The path of an operation is cut into its segments. -/
theorem pieces_segments {operation : Operation} (plain : operation.IsPlain) :
    Text.pieces '/' (Text.joinPieces '/' operation.segments) = operation.segments :=
  Text.pieces_joinPieces (by simp [segments]) fun _ among =>
    (plain_of_mem_segments plain among).single

/-- The first segment is always the same. -/
theorem exists_rest (operation : Operation) :
    ∃ rest, Text.joinPieces '/' operation.segments = 'a' :: rest := by
  cases operation <;> exact ⟨_, rfl⟩

end Operation

/-! ## What is asked for -/

namespace Client

/-- Carries out an operation. -/
def perform (client : Client) : (operation : Operation) → Script operation.Result
  | .uploadPipeline submission => client.uploadPipeline submission
  | .listPipelines => client.listPipelines
  | .findPipelineId name => client.findPipelineId name
  | .createRun request => client.createRun request
  | .getRun runId => client.getRun runId
  | .waitForRun runId => client.waitForRun runId
  | .listArtifacts deployment => client.listArtifacts deployment
  | .getArtifact artifactId => client.getArtifact artifactId
  | .getDownload artifactId => client.getDownload artifactId

/-- Whether a request is one of an operation: it has its method and its path, and if it reads a
run no parameter. -/
def AsksIn (client : Client) (operation : Operation) (request : Request) : Prop :=
  ∃ parameter body, (operation.isPoll = true → parameter = none) ∧
    client.Asks operation.method operation.path parameter body request

/-- Whether all requests among some acts are of a kind. -/
def AllRequests (kind : Request → Prop) (acts : List Act) : Prop :=
  ∀ request answer, .request request answer ∈ acts → kind request

variable {α : Type} {client : Client} {kind : Request → Prop} {acts : List Act}

theorem Only.allRequests {other : Request → Prop} (only : Only kind acts)
    (within : ∀ request, kind request → other request) : AllRequests other acts := by
  intro request answer among
  obtain ⟨_, _, same, holds⟩ := only _ among
  cases same
  exact within request holds

theorem Exchange.allRequests {method : Method} {path : String}
    {parameter : Option (String × String)} {body : Body}
    {take : Location → Response → Except Halt α} {result : Except Halt α}
    (exchange : client.Exchange method path parameter body take acts result)
    (within : ∀ request, client.Asks method path parameter body request → kind request) :
    AllRequests kind acts :=
  Only.allRequests exchange.asked within

theorem Listing.only {result : Except Halt (List Pipeline)} (listing : client.Listing acts result) :
    Only client.AsksPage acts := by
  cases listing with
  | complete only => exact only
  | broke breaks => exact breaks.only

theorem Lookup.only {name : String} {result : Except Halt String}
    (lookup : client.Lookup name acts result) : Only client.AsksPage acts := by
  cases lookup with
  | found only | missing only => exact only
  | broke breaks => exact breaks.only

/-- An operation sends no requests but its own. -/
theorem perform_asks (client : Client) (operation : Operation) :
    (client.perform operation).Follows fun acts _ =>
      AllRequests (client.AsksIn operation) acts := by
  cases operation with
  | uploadPipeline submission =>
    refine (client.uploadPipeline_follows submission).mono fun acts result upload => ?_
    cases upload with
    | unreadable | upset => exact fun _ _ among => by simp at among
    | sent exchange =>
      intro request answer among
      rcases List.mem_cons.mp among with impossible | among
      · cases impossible
      · exact exchange.allRequests (fun _ asks => ⟨_, _, nofun, asks⟩) request answer among
  | listPipelines =>
    exact client.listPipelines_follows.mono fun acts result listing =>
      listing.only.allRequests fun _ ⟨_, asks⟩ => ⟨_, _, nofun, asks⟩
  | findPipelineId name =>
    exact (client.findPipelineId_follows name).mono fun acts result lookup =>
      lookup.only.allRequests fun _ ⟨_, asks⟩ => ⟨_, _, nofun, asks⟩
  | createRun request =>
    exact (client.createRun_follows request).mono fun acts result exchange =>
      exchange.allRequests fun _ asks => ⟨_, _, nofun, asks⟩
  | getRun runId =>
    exact (client.fetch_follows _ _ _ _).mono fun acts result exchange =>
      exchange.allRequests fun _ asks => ⟨_, _, fun _ => rfl, asks⟩
  | waitForRun runId =>
    exact (client.waitForRun_follows runId).mono fun acts result wait =>
      wait.only.allRequests fun _ asks => ⟨_, _, fun _ => rfl, asks⟩
  | listArtifacts deployment =>
    refine (client.listArtifacts_follows deployment).mono fun acts result next => ?_
    cases next with
    | stops exchange => exact exchange.allRequests fun _ asks => ⟨_, _, nofun, asks⟩
    | goes exchange ended =>
      obtain ⟨rfl, _⟩ := ended
      rw [List.append_nil]
      exact exchange.allRequests fun _ asks => ⟨_, _, nofun, asks⟩
  | getArtifact artifactId =>
    exact (client.fetch_follows _ _ _ _).mono fun acts result exchange =>
      exchange.allRequests fun _ asks => ⟨_, _, nofun, asks⟩
  | getDownload artifactId =>
    exact (client.getDownload_follows artifactId).mono fun acts result exchange =>
      exchange.allRequests fun _ asks => ⟨_, _, nofun, asks⟩

end Client

end ArtifactAudit.Platform
