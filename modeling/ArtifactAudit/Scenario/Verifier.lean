import ArtifactAudit.Cluster.Exec
import ArtifactAudit.Platform.Client
import ArtifactAudit.Scenario.Report
import ArtifactAudit.Shell.Word
import ArtifactAudit.Url.Download

/-!
# Verifying artifacts

A scenario uploads a pipeline, runs it, waits for the run, lists the artifacts
and checks each of them: the platform must show it and resolve its download
address, and a download of that address from inside the cluster must be granted.

A failure before the checks ends the scenario. A failure in a check becomes the
outcome of that artifact alone.
-/

set_option autoImplicit false

namespace ArtifactAudit.Scenario

/-- A scenario together with the connection to the platform. -/
structure Verifier where
  config : ScenarioConfig
  client : Platform.Client

/-- The phrase with which the storage refuses a download. -/
def accessDeniedPhrase : String := "Access Denied"

/-- Whether the output of a download is a refusal. -/
def isAccessDenied (output : String) : Bool :=
  Text.mentions output accessDeniedPhrase

/-- Goes from one state to the next. -/
def transition (current next : State) : Script Unit := do
  Script.log .info s!"Scenario state: {current.name} -> {next.name}"
  Script.perform (.enter next)

/-- A checked value. Defects are a fault. -/
def ofChecked {α : Type} : Platform.Checked α → Script α
  | .ok value => .done value
  | .error defects => .crash (.invalid defects)

namespace Verifier

/-! ## Setup -/

/-- The failure of an upload whose request failed. -/
def uploadFailure (name : String) : Failure → Script Unit
  | .request (.malformedResponse message) => .fail (.request (.malformedResponse message))
  | .request cause =>
    .fail (.submission s!"Uploading pipeline '{name}' failed: {cause.message}" (some cause))
  | failure => .fail failure

/-- Uploads the pipeline and looks its identifier up. -/
def submitPipeline (verifier : Verifier) (current : State) : Script String := do
  let submission ←
    ofChecked (Platform.Submission.make verifier.config.pipelineName verifier.config.pipelineFile)
  (verifier.client.uploadPipeline submission).recover (uploadFailure submission.name)
  let pipelineId ← verifier.client.findPipelineId submission.name
  transition current .pipelineSubmitted
  return pipelineId

/-- The failure to create a run whose request failed. -/
def creationFailure (pipelineId : String) : Failure → Script Platform.Run
  | .request cause =>
    .fail
      (.runCreation s!"Creating run for pipeline {pipelineId} failed: {cause.message}" (some cause))
  | failure => .fail failure

def startRun (verifier : Verifier) (current : State) (pipelineId : String) :
    Script Platform.Run := do
  let request ← ofChecked (Platform.RunRequest.make pipelineId verifier.config.pipelineName)
  let run ← (verifier.client.createRun request).recover (creationFailure pipelineId)
  transition current .runStarted
  return run

/-- Waits for the run to succeed. -/
def waitForRun (verifier : Verifier) (current : State) (runId : String) :
    Script Platform.Run := do
  let run ← verifier.client.waitForRun runId
  transition current .runCompleted
  return run

/-- Lists the artifacts of the deployment. -/
def listArtifacts (verifier : Verifier) (current : State) : Script (List Platform.Artifact) := do
  let artifacts ← verifier.client.listArtifacts verifier.config.deployment
  transition current .artifactsListed
  Script.log .info s!"Found {artifacts.length} artifact(s) in {verifier.config.deployment}"
  return artifacts

/-- Finds the pod that runs the downloads. -/
def resolvePod (verifier : Verifier) : Script Cluster.Pod :=
  Cluster.locatePod verifier.config.kubectl verifier.config.deployment
    verifier.config.labelSelector

/-! ## Checks -/

/-- The download address of an artifact that the platform shows. -/
def resolveDownload (verifier : Verifier) (artifactId : String) : Script String := do
  discard <| verifier.client.getArtifact artifactId
  let artifact ← verifier.client.getDownload artifactId
  .ofExcept (Url.normalize artifact.downloadUrl)

/-- Downloads an address from inside the cluster. -/
def download (verifier : Verifier) (pod : Cluster.Pod) (url : String) : Script String :=
  Cluster.outputInPod verifier.config.kubectl pod.deployment pod.name (Shell.downloadCommand url)

/-- Reports a failed check. -/
def failedCheck (artifactId : String) (downloadUrl : Option String) (failure : Failure) :
    Script Outcome := do
  Script.log .error s!"Artifact {artifactId} failed verification: {failure.message}"
  return { artifactId, succeeded := false, downloadUrl
           message := some s!"{failure.kind.label}: {failure.message}" }

/-- Reports a refused download. -/
def refusedCheck (artifactId url output : String) : Script Outcome := do
  Script.log .error s!"error downloading the artifact {artifactId}: {output}"
  return { artifactId, succeeded := false, downloadUrl := some url
           message := some (Failure.accessDenied artifactId output).message }

/-- Reports a passed check. -/
def passedCheck (artifactId url : String) (pod : Cluster.Pod) : Script Outcome := do
  Script.log .info s!"Artifact {artifactId} downloaded from {pod.name.text}"
  return { artifactId, succeeded := true, downloadUrl := some url }

/-- Checks one artifact. Every failure becomes its outcome. -/
def verifyArtifact (verifier : Verifier) (pod : Cluster.Pod) (artifactId : String) :
    Script Outcome := do
  match ← (verifier.resolveDownload artifactId).attempt with
  | .error failure => failedCheck artifactId none failure
  | .ok url =>
    match ← (verifier.download pod url).attempt with
    | .error failure => failedCheck artifactId (some url) failure
    | .ok output =>
      if isAccessDenied output then refusedCheck artifactId url output
      else passedCheck artifactId url pod

/-- Checks artifacts one after the other. -/
def verifyEach (verifier : Verifier) (pod : Cluster.Pod) : List String → Script (List Outcome)
  | [] => return []
  | artifactId :: rest => do
    let outcome ← verifier.verifyArtifact pod artifactId
    let outcomes ← verifier.verifyEach pod rest
    return outcome :: outcomes

/-- Checks artifacts independently of one another: a fault in one check does not
keep the others from being made. -/
def settleEach (verifier : Verifier) (pod : Cluster.Pod) :
    List String → Script (List (Except Halt Outcome))
  | [] => return []
  | artifactId :: rest => do
    let outcome ← (verifier.verifyArtifact pod artifactId).settle
    let outcomes ← verifier.settleEach pod rest
    return outcome :: outcomes

/-- Whether several artifacts are checked at a time. -/
def runsParallel (verifier : Verifier) (artifacts : List String) : Bool :=
  1 < verifier.config.maxWorkers && 1 < artifacts.length

/-- Checks artifacts. The outcomes stand in the order of the artifacts. -/
def verifyArtifacts (verifier : Verifier) (pod : Cluster.Pod) (artifacts : List String) :
    Script (List Outcome) :=
  if verifier.runsParallel artifacts then do
    let settled ← verifier.settleEach pod artifacts
    .ofSettled (settled.mapM id)
  else verifier.verifyEach pod artifacts

/-! ## The scenario -/

def reportOn (verifier : Verifier) (runId : String) (artifacts : List Platform.Artifact) :
    Script Report := do
  if artifacts.isEmpty then
    if verifier.config.failOnEmpty then
      .fail (.noArtifacts s!"Run {runId} produced no artifacts in {verifier.config.deployment}")
    else
      Script.log .warning s!"Run {runId} produced no artifacts; nothing to verify"
      return { runId := some runId }
  else
    let pod ← verifier.resolvePod
    let outcomes ← verifier.verifyArtifacts pod (artifacts.map (·.artifactId))
    return { runId := some runId, pod := some pod, outcomes }

/-- Writes the verdict to the log. -/
def logVerdict (report : Report) : Script Unit :=
  if report.succeeded then
    Script.log .info s!"All {report.outcomes.length} artifact(s) verified"
  else
    Script.log .error
      s!"{report.failures.length} of {report.outcomes.length} artifact(s) failed verification"

/-- Runs the scenario from a state on, usually from `idle`. -/
def run (verifier : Verifier) (current : State) : Script Report := do
  let pipelineId ← verifier.submitPipeline current
  let run ← verifier.startRun .pipelineSubmitted pipelineId
  discard <| verifier.waitForRun .runStarted run.runId
  let artifacts ← verifier.listArtifacts .runCompleted
  let report ← verifier.reportOn run.runId artifacts
  transition .artifactsListed .verdict
  logVerdict report
  return report

end Verifier

end ArtifactAudit.Scenario
