import ArtifactAudit.Proofs.Scenario.Checks

/-!
# The stages of a scenario

A scenario uploads the definition, looks the pipeline up, creates a run, waits for
it, lists the artifacts, finds the pod and checks the artifacts. A stage is only
entered after the one before it gave what it needs, and the states of the scenario
are announced between them. `Stages` is this course, for any course of the checks;
`run_follows` says that a scenario takes it.
-/

set_option autoImplicit false

namespace ArtifactAudit.Platform

/-! ## What is sent -/

/-- A submission has the name and the file it was made from. -/
theorem Submission.eq_of_make {name file : String} {submission : Submission}
    (made : Submission.make name file = .ok submission) :
    submission = { name, definition := .ofText file } := by
  unfold Submission.make Submission.read readRecord required readText at made
  by_cases empty : name.length < 1
  · simp [empty, List.lookup_cons, Checked.under, Checked.both, Checked.defect, readPath,
      Except.map] at made
  · simp [empty, List.lookup_cons, Checked.under, Checked.both, readPath, Except.map] at made
    exact made.symm

/-- A request for a run has the pipeline and the name it was made from. -/
theorem RunRequest.eq_of_make {pipelineId name : String} {request : RunRequest}
    (made : RunRequest.make pipelineId name = .ok request) :
    request = { pipelineId, displayName := name } := by
  unfold RunRequest.make RunRequest.read readRecord required readText at made
  by_cases unidentified : pipelineId.length < 1 <;> by_cases unnamed : name.length < 1 <;>
    simp [unidentified, unnamed, List.lookup_cons, Checked.under, Checked.both, Checked.defect,
      Except.map] at made
  exact made.symm

end ArtifactAudit.Platform

namespace ArtifactAudit.Scenario

/-! ## Announced states -/

/-- A course that announces a state when it gave its value. -/
inductive Reaching {α : Type} (course : Course α) (state : State) :
    List Act → Except Halt α → Prop where
  | stopped {acts : List Act} {reason : Halt} :
      course acts (.error reason) → Reaching course state acts (.error reason)
  | reached {acts : List Act} {value : α} :
      course acts (.ok value) → Reaching course state (acts ++ [.announcement state]) (.ok value)

/-- Of two courses that reach a state the second one reaches it. -/
theorem Reaching.assoc {α β γ : Type} {first : Course α} {second : α → Course β}
    {third : β → Course γ} {state : State} {acts : List Act} {result : Except Halt γ}
    (next : Course.Next (Reaching (Course.Next first second) state) third acts result) :
    Course.Next first (fun value => Course.Next (Reaching (second value) state) third) acts
      result := by
  cases next with
  | stops stopped =>
    cases stopped with
    | stopped stopped =>
      cases stopped with
      | stops early => exact .stops early
      | goes gave late => exact .goes gave (.stops (.stopped late))
  | goes reached later =>
    cases reached with
    | reached both =>
      cases both with
      | goes gave rest =>
        rw [List.append_assoc, List.append_assoc, ← List.append_assoc _ [_]]
        exact .goes gave (.goes (.reached rest) later)

/-- A script reaches a state when a transition and nothing that is seen follow it. -/
theorem reaching_follows {α : Type} {script : Script α} {course : Course α} (current state : State)
    (follows : script.Follows course) {last : α → Script α}
    (ends : ∀ value, (last value).Follows (Course.ends (.ok value))) :
    (script.bind fun value => (transition current state).bind fun _ => last value).Follows
      (Reaching course state) := by
  have announcing : (transition current state).Follows fun acts result =>
      acts = [.announcement state] ∧ result = .ok () :=
    Script.Follows.after_log fun _ => Script.Follows.announce
  refine (Script.Follows.bind follows fun value =>
    Script.Follows.bind announcing fun _ => ends value).mono fun acts result next => ?_
  cases next with
  | stops stopped => exact .stopped stopped
  | goes gave rest =>
    cases rest with
    | stops stopped => cases stopped.2
    | goes announced ended =>
      obtain ⟨rfl, _⟩ := announced
      obtain ⟨rfl, rfl⟩ := ended
      rw [List.append_nil]
      exact .reached gave

namespace Verifier

open Platform Platform.Client Cluster

/-! ## Submitting the pipeline -/

def uploadPath : String := apiRoot ++ "/pipelines/upload"

/-- The file that holds the definition. -/
def definition (verifier : Verifier) : Path := .ofText verifier.config.pipelineFile

/-- Whether a request is the upload of a definition. -/
def AsksUpload (verifier : Verifier) (bytes : List UInt8) (request : Request) : Prop :=
  verifier.client.Asks .post uploadPath (some ("name", verifier.config.pipelineName))
    (.upload verifier.definition.name bytes) request

/-- The course of the upload: the definition is read, and if it can be read it is
sent. -/
inductive Uploading (verifier : Verifier) : List Act → Except Halt Unit → Prop where
  | unnamed (fault : Fault) : Uploading verifier [] (.error (.fault fault))
  | unreadable (error : SystemError) (message : String) :
      Uploading verifier [.file verifier.definition.text (.unreadable error)]
        (.error (.failure (.submission message none)))
  /-- Its path is a fault. -/
  | misread (fault : Fault) :
      Uploading verifier [.file verifier.definition.text (.fault fault)] (.error (.fault fault))
  /-- The definition cannot be sent. -/
  | unsent (bytes : List UInt8) (fault : Fault) :
      Uploading verifier [.file verifier.definition.text (.content bytes)] (.error (.fault fault))
  /-- The answer brings a fault. -/
  | upset {bytes : List UInt8} {request : Request} {answer : Answer} (fault : Fault) :
      verifier.AsksUpload bytes request →
        Uploading verifier
          [.file verifier.definition.text (.content bytes), .request request answer]
          (.error (.fault fault))
  | refused {bytes : List UInt8} {request : Request} {answer : Answer} {cause : RequestFailure} :
      verifier.AsksUpload bytes request →
        Denies .post uploadPath request.location answer cause →
          Uploading verifier
            [.file verifier.definition.text (.content bytes), .request request answer]
            (.error (.failure (.submission
              s!"Uploading pipeline '{verifier.config.pipelineName}' failed: {cause.message}"
              (some cause))))
  | uploaded {bytes : List UInt8} {request : Request} {response : Response} :
      verifier.AsksUpload bytes request → response.status = 200 →
        Uploading verifier
          [.file verifier.definition.text (.content bytes), .request request (.response response)]
          (.ok ())

/-- The course of an upload with its failures handled. -/
theorem Uploading.of_recovered {verifier : Verifier} {submission : Submission} {acts : List Act}
    {result : Except Halt Unit}
    (made : Submission.make verifier.config.pipelineName verifier.config.pipelineFile =
      .ok submission)
    (recovered : Course.Recovered (verifier.client.Upload submission)
      (fun failure => (uploadFailure submission.name failure).course) acts result) :
    verifier.Uploading acts result := by
  obtain rfl := Submission.eq_of_make made
  cases recovered with
  | gave gave =>
    cases gave with
    | sent exchange =>
      obtain ⟨_, _, rfl, asks, _, success, _⟩ := exchange.gave
      exact .uploaded asks success
  | handled failed handles =>
    obtain ⟨events, rfl, run⟩ := handles
    cases failed with
    | unreadable error =>
      obtain ⟨rfl, rfl⟩ := Script.runs_halt_iff.mp run
      exact .unreadable error _
    | sent exchange =>
      obtain ⟨request, answer, cause, rfl, asks, denies, rfl⟩ := exchange.refused
      have refusal : uploadFailure verifier.config.pipelineName (.request cause) =
          .fail (.submission
            s!"Uploading pipeline '{verifier.config.pipelineName}' failed: {cause.message}"
            (some cause)) := by
        cases denies <;> rfl
      rw [refusal] at run
      obtain ⟨rfl, rfl⟩ := Script.runs_halt_iff.mp run
      exact .refused asks denies
  | broke broke =>
    cases broke with
    | upset => exact .misread _
    | sent exchange =>
      rcases exchange.faulted with ⟨rfl, _⟩ | ⟨_, _, rfl, asks, _⟩
      · exact .unsent _ _
      · exact .upset _ asks

/-- The course of the submission: the upload, and then the lookup. -/
abbrev Submitting (verifier : Verifier) : Course String :=
  Course.Next verifier.Uploading fun _ => verifier.client.Lookup verifier.config.pipelineName

theorem submitPipeline_follows (verifier : Verifier) (current : State) :
    (verifier.submitPipeline current).Follows
      (Reaching verifier.Submitting .pipelineSubmitted) := by
  unfold submitPipeline
  cases made : Submission.make verifier.config.pipelineName verifier.config.pipelineFile with
  | error defects => exact Script.Follows.halt (.stopped (.stops (.unnamed _)))
  | ok submission =>
    have upload := ((verifier.client.uploadPipeline_follows submission).recover fun failure =>
      Script.Follows.self (uploadFailure submission.name failure)).mono
      fun acts result recovered => Uploading.of_recovered made recovered
    obtain rfl := Submission.eq_of_make made
    have lookup := verifier.client.findPipelineId_follows verifier.config.pipelineName
    have submitting := reaching_follows current .pipelineSubmitted
      (Script.Follows.bind upload fun _ => lookup) fun pipelineId =>
        Script.Follows.returns pipelineId
    rw [Script.bind_assoc] at submitting
    exact submitting

/-! ## Creating the run -/

/-- The path of the creation of runs. -/
def runsPath : String := apiRoot ++ "/runs"

/-- Whether a request is the one that creates a run of a pipeline. -/
def AsksCreation (verifier : Verifier) (pipelineId : String) (request : Request) : Prop :=
  verifier.client.Asks .post runsPath none
    (.json (RunRequest.body { pipelineId, displayName := verifier.config.pipelineName })) request

/-- The course of the creation of a run: one request, whose answer decides. -/
inductive Creating (verifier : Verifier) (pipelineId : String) :
    List Act → Except Halt Run → Prop where
  | unsent (fault : Fault) : Creating verifier pipelineId [] (.error (.fault fault))
  | upset {request : Request} {answer : Answer} (fault : Fault) :
      verifier.AsksCreation pipelineId request →
        Creating verifier pipelineId [.request request answer] (.error (.fault fault))
  | failed {request : Request} {answer : Answer} {cause : RequestFailure} :
      verifier.AsksCreation pipelineId request →
        Fails "Run" Run.read .post runsPath request.location answer cause →
          Creating verifier pipelineId [.request request answer]
            (.error (.failure (.runCreation
              s!"Creating run for pipeline {pipelineId} failed: {cause.message}" (some cause))))
  | created {request : Request} {answer : Answer} {run : Run} :
      verifier.AsksCreation pipelineId request → Reports Run.read answer run →
        Creating verifier pipelineId [.request request answer] (.ok run)

/-- The course of a creation with its failures handled. -/
theorem Creating.of_recovered {verifier : Verifier} {pipelineId : String} {acts : List Act}
    {result : Except Halt Run}
    (recovered : Course.Recovered
      (verifier.client.Exchange .post runsPath none
        (.json (RunRequest.body { pipelineId, displayName := verifier.config.pipelineName }))
        (recordIn "Run" Run.read))
      (fun failure => (creationFailure pipelineId failure).course) acts result) :
    verifier.Creating pipelineId acts result := by
  cases recovered with
  | gave exchange =>
    obtain ⟨_, _, rfl, asks, reports⟩ := exchange.reported (reads_recordIn _ _)
    exact .created asks reports
  | handled exchange handles =>
    obtain ⟨events, rfl, run⟩ := handles
    obtain ⟨_, _, _, rfl, asks, fails, rfl⟩ := exchange.failed (reads_recordIn _ _)
    obtain ⟨rfl, rfl⟩ := Script.runs_halt_iff.mp run
    exact .failed asks fails
  | broke exchange =>
    rcases exchange.faulted with ⟨rfl, _⟩ | ⟨_, _, rfl, asks, _⟩
    · exact .unsent _
    · exact .upset _ asks

theorem startRun_follows (verifier : Verifier) (current : State) (pipelineId : String) :
    (verifier.startRun current pipelineId).Follows
      (Reaching (verifier.Creating pipelineId) .runStarted) := by
  unfold startRun
  cases made : RunRequest.make pipelineId verifier.config.pipelineName with
  | error defects => exact Script.Follows.halt (.stopped (.unsent _))
  | ok request =>
    obtain rfl := RunRequest.eq_of_make made
    have creation := ((verifier.client.createRun_follows _).recover fun failure =>
      Script.Follows.self (creationFailure pipelineId failure)).mono
      fun acts result recovered => Creating.of_recovered recovered
    exact reaching_follows current .runStarted creation fun _ => Script.Follows.done ⟨rfl, rfl⟩

/-! ## Waiting for the run and listing the artifacts -/

theorem waitForRun_follows (verifier : Verifier) (current : State) (runId : String) :
    (verifier.waitForRun current runId).Follows
      (Reaching (verifier.client.Wait runId) .runCompleted) :=
  reaching_follows current .runCompleted (verifier.client.waitForRun_follows runId)
    fun _ => Script.Follows.done ⟨rfl, rfl⟩

/-- Whether a request is the one for the listing of artifacts. -/
def AsksArtifacts (verifier : Verifier) (request : Request) : Prop :=
  verifier.client.Asks .get artifactsPath (some ("namespace", verifier.config.deployment)) .empty
    request

/-- The course of the listing of artifacts: one request, whose answer decides. -/
inductive Listing (verifier : Verifier) : List Act → Except Halt (List Artifact) → Prop where
  | unsent (fault : Fault) : Listing verifier [] (.error (.fault fault))
  | upset {request : Request} {answer : Answer} (fault : Fault) :
      verifier.AsksArtifacts request →
        Listing verifier [.request request answer] (.error (.fault fault))
  | failed {request : Request} {answer : Answer} {cause : RequestFailure} :
      verifier.AsksArtifacts request →
        Fails "ArtifactListing" ArtifactListing.read .get artifactsPath request.location answer
          cause →
          Listing verifier [.request request answer] (.error (.failure (.request cause)))
  | listed {request : Request} {answer : Answer} {artifacts : List Artifact} :
      verifier.AsksArtifacts request →
        Reports ArtifactListing.read answer { artifacts } →
          Listing verifier [.request request answer] (.ok artifacts)

theorem Listing.of_next {verifier : Verifier} {acts : List Act}
    {result : Except Halt (List Artifact)}
    (next : Course.Next
      (verifier.client.Exchange .get artifactsPath
        (some ("namespace", verifier.config.deployment)) .empty
        (recordIn "ArtifactListing" ArtifactListing.read))
      (fun listing => Course.ends (.ok listing.artifacts)) acts result) :
    verifier.Listing acts result := by
  cases next with
  | stops stopped =>
    rename_i reason
    match reason with
    | .failure failure =>
      obtain ⟨_, _, _, rfl, asks, fails, rfl⟩ := stopped.failed (reads_recordIn _ _)
      exact .failed asks fails
    | .fault fault =>
      rcases stopped.faulted with ⟨rfl, _⟩ | ⟨_, _, rfl, asks, _⟩
      · exact .unsent _
      · exact .upset _ asks
  | goes gave ended =>
    obtain ⟨_, _, rfl, asks, reports⟩ := gave.reported (reads_recordIn _ _)
    obtain ⟨rfl, rfl⟩ := ended
    exact .listed asks reports

theorem listArtifacts_follows (verifier : Verifier) (current : State) :
    (verifier.listArtifacts current).Follows (Reaching verifier.Listing .artifactsListed) :=
  reaching_follows current .artifactsListed
    ((verifier.client.listArtifacts_follows verifier.config.deployment).mono
      fun _ _ next => Listing.of_next next)
    fun _ => Script.Follows.after_log fun _ => Script.Follows.done ⟨rfl, rfl⟩

/-! ## Inspecting the artifacts -/

/-- The command that lists the pods of the deployment. -/
def podLookup (verifier : Verifier) : Command :=
  podCommand verifier.config.kubectl verifier.config.deployment verifier.config.labelSelector

/-- The course of the lookup of the pod: one command, unless the deployment has no
name. -/
inductive Locating (verifier : Verifier) : List Act → Except Halt Pod → Prop where
  | unnamed (fault : Fault) :
      verifier.config.deployment = "" → Locating verifier [] (.error (.fault fault))
  | asked {answer : CommandAnswer} {result : Except Halt Pod} :
      verifier.config.deployment ≠ "" → Locates verifier.config.deployment answer result →
        Locating verifier [.command verifier.podLookup answer] result

theorem resolvePod_follows (verifier : Verifier) :
    verifier.resolvePod.Follows verifier.Locating := by
  by_cases named : verifier.config.deployment = ""
  · unfold resolvePod
    rw [named]
    refine (locatePod_unnamed _ _).mono fun acts result ended => ?_
    obtain ⟨rfl, rfl⟩ := ended
    exact .unnamed _ named
  · refine (locatePod_follows _ _ named).mono fun acts result follows => ?_
    obtain ⟨answer, rfl, locates⟩ := follows
    exact .asked named locates

/-- What a scenario without artifacts ends with. -/
def vacuous (verifier : Verifier) (runId : String) : Except Halt Report :=
  if verifier.config.failOnEmpty then
    .error (.failure
      (.noArtifacts s!"Run {runId} produced no artifacts in {verifier.config.deployment}"))
  else .ok { runId := some runId }

/-- The course of the inspection of artifacts: if there are any, the pod is looked
up and they are checked. -/
def Inspecting (verifier : Verifier) (checks : Pod → List String → Course (List Outcome))
    (runId : String) (artifacts : List Artifact) : Course Report :=
  if artifacts.isEmpty then Course.ends (verifier.vacuous runId)
  else Course.Next verifier.Locating fun pod =>
    Course.Next (checks pod (artifacts.map (·.artifactId))) fun outcomes =>
      Course.ends (.ok { runId := some runId, pod := some pod, outcomes })

theorem reportOn_follows (verifier : Verifier)
    {checks : Pod → List String → Course (List Outcome)}
    (checking : ∀ pod artifacts, (verifier.verifyArtifacts pod artifacts).Follows
      (checks pod artifacts))
    (runId : String) (artifacts : List Artifact) :
    (verifier.reportOn runId artifacts).Follows (verifier.Inspecting checks runId artifacts) := by
  unfold reportOn Inspecting
  split
  · unfold vacuous
    split
    · exact Script.Follows.halt ⟨rfl, rfl⟩
    · exact Script.Follows.after_log fun _ => Script.Follows.done ⟨rfl, rfl⟩
  · exact Script.Follows.bind verifier.resolvePod_follows fun pod =>
      Script.Follows.bind (checking pod _) fun _ => Script.Follows.done ⟨rfl, rfl⟩

/-! ## The scenario -/

/-- The course of a scenario, for a course of the checks. -/
def Stages (verifier : Verifier) (checks : Pod → List String → Course (List Outcome)) :
    Course Report :=
  Course.Next (Reaching verifier.Submitting .pipelineSubmitted) fun pipelineId =>
    Course.Next (Reaching (verifier.Creating pipelineId) .runStarted) fun run =>
      Course.Next (Reaching (verifier.client.Wait run.runId) .runCompleted) fun _ =>
        Course.Next (Reaching verifier.Listing .artifactsListed) fun artifacts =>
          Reaching (verifier.Inspecting checks run.runId artifacts) .verdict

theorem logVerdict_follows (report : Report) :
    (logVerdict report).Follows fun acts result => acts = [] ∧ ∃ value, result = .ok value := by
  unfold logVerdict
  split <;> exact Script.Follows.log

/-- A scenario takes its stages one after another. -/
theorem run_follows (verifier : Verifier)
    {checks : Pod → List String → Course (List Outcome)}
    (checking : ∀ pod artifacts, (verifier.verifyArtifacts pod artifacts).Follows
      (checks pod artifacts))
    (current : State) : (verifier.run current).Follows (verifier.Stages checks) :=
  Script.Follows.bind (verifier.submitPipeline_follows current) fun pipelineId =>
    Script.Follows.bind (verifier.startRun_follows .pipelineSubmitted pipelineId) fun run =>
      Script.Follows.bind_discard (verifier.waitForRun_follows .runStarted run.runId)
        (Script.Follows.bind (verifier.listArtifacts_follows .runCompleted) fun artifacts =>
          reaching_follows .artifactsListed .verdict
            (verifier.reportOn_follows checking run.runId artifacts) fun report =>
              Script.Follows.after_silent (logVerdict_follows report) fun _ =>
                Script.Follows.done ⟨rfl, rfl⟩)

/-- In every world. -/
theorem stages_play (verifier : Verifier) (current : State) {σ : Type} (world : World σ)
    (start : σ) :
    verifier.Stages verifier.Checking (actsOf ((verifier.run current).events world start))
      ((verifier.run current).play world start).1 :=
  verifier.run_follows verifier.verifyArtifacts_follows current _ _
    (Script.runs_play world _ start)

/-! ## A scenario with one artifact -/

/-- A scenario against a platform on the host `a`. -/
def sample : Verifier where
  config :=
    { deployment := "ns", platform := { apiUrl := "http://a" }, pipelineFile := "p.yaml"
      pipelineName := "p" }
  client :=
    { base := ⟨{ scheme := ['h', 't', 't', 'p'], user := [], host := ['a'], port := none
                 path := ['/'], query := none, fragment := none }⟩
      authorization := none, pollInterval := 0, lookupAttempts := 1, runTimeout := 0
      patience := 1 }

def asciiBytes (text : String) : List UInt8 :=
  text.toList.map fun c => UInt8.ofNat c.toNat

/-- A response with status 200. -/
def accepted (body : String) : Answer :=
  .response { status := 200, body := asciiBytes body, contentType := none }

/-- A world in which the platform gives some answers in turn, and every command ends
with the same output. -/
def sampleWorld (output : String) : World (List Answer)
  | .request _, answers => (answers.headD (.failed ""), answers.tail)
  | .command _, answers =>
    (.finished { output := asciiBytes output, errors := [], code := 0 }, answers)
  | .content _, answers => (.content [], answers)
  | .status _, answers => (.file, answers)
  | .clock, answers => (0, answers)
  | .sleep _, answers | .setUpLog _, answers => (.ok (), answers)
  | .log _, answers | .enter _, answers => ((), answers)

/-- The listing of one pod. -/
def samplePods : String := "\x7b\"items\":[\x7b\"metadata\":\x7b\"name\":\"pod\"\x7d\x7d]\x7d"

/-- The answers of a platform with one artifact. -/
def sampleAnswers : List Answer :=
  [accepted "\x7b\x7d",
    accepted "\x7b\"pipelines\":[\x7b\"pipeline_id\":\"1\",\"display_name\":\"p\"\x7d]\x7d",
    accepted "\x7b\"run_id\":\"r\"\x7d",
    accepted "\x7b\"run_id\":\"r\",\"state\":\"SUCCEEDED\"\x7d",
    accepted "\x7b\"artifacts\":[\x7b\"artifact_id\":\"a\"\x7d]\x7d",
    accepted "\x7b\"artifact_id\":\"a\"\x7d",
    accepted "\x7b\"artifact_id\":\"a\",\"download_url\":\"s://h/p\"\x7d"]

end Verifier

end ArtifactAudit.Scenario
