import ArtifactAudit.Proofs.Cluster.Sessions
import ArtifactAudit.Proofs.Platform.Operations
import ArtifactAudit.Scenario.Verifier

/-!
# The check of one artifact

The platform is asked for the artifact and then for its download view, the address
in the view is normalized, and the download is run in the pod. Each step is only
taken after the one before it succeeded. `Check` says what each way of going wrong
leaves behind, and `verifyArtifact_follows` that there are no others.
-/

set_option autoImplicit false

namespace ArtifactAudit.Scenario.Verifier

open Platform Platform.Client Cluster

/-! ## Resolving the download address -/

def AsksDetail (verifier : Verifier) (artifactId : String) (request : Request) : Prop :=
  verifier.client.Asks .get (artifactPath artifactId) none .empty request

/-- Whether a request is the one for the download view of an artifact. -/
def AsksView (verifier : Verifier) (artifactId : String) (request : Request) : Prop :=
  verifier.client.Asks .get (artifactPath artifactId) (some ("view", "DOWNLOAD")) .empty request

/-- The platform shows the artifact. -/
structure ShowsDetail (verifier : Verifier) (artifactId : String) (request : Request)
    (answer : Answer) (artifact : Artifact) : Prop where
  asks : verifier.AsksDetail artifactId request
  reports : Reports Artifact.read answer artifact
  unfaulted : ∀ fault, ¬ Upsets request.location answer fault

/-- The platform answers the request for the download view, without a fault. -/
structure AnswersView (verifier : Verifier) (artifactId : String) (request : Request)
    (answer : Answer) : Prop where
  asks : verifier.AsksView artifactId request
  unfaulted : ∀ fault, ¬ Faults viewIn request.location answer fault

/-- The platform shows the artifact and its download view, and the address in the
view is accepted. -/
inductive Resolves (verifier : Verifier) (artifactId : String) : List Act → String → Prop where
  | intro {detail view : Request} {first second : Answer} {shown artifact : Artifact}
      {url : String} :
      verifier.ShowsDetail artifactId detail first shown →
        verifier.AnswersView artifactId view second → Reports Artifact.read second artifact →
          Url.normalize artifact.downloadUrl = .ok url →
            Resolves verifier artifactId [.request detail first, .request view second] url

/-- A failure keeps the download address from being resolved. -/
inductive Unresolved (verifier : Verifier) (artifactId : String) : List Act → Failure → Prop where
  /-- The platform does not show the artifact. -/
  | detail {request : Request} {answer : Answer} {cause : RequestFailure} :
      verifier.AsksDetail artifactId request →
        Fails "ArtifactDetail" Artifact.read .get (artifactPath artifactId) request.location answer
          cause →
          Unresolved verifier artifactId [.request request answer] (.request cause)
  /-- It does not show the download view. -/
  | view {detail view : Request} {first second : Answer} {shown : Artifact}
      {cause : RequestFailure} :
      verifier.ShowsDetail artifactId detail first shown →
        verifier.AnswersView artifactId view second →
          Fails "ArtifactDetail" Artifact.read .get (artifactPath artifactId) view.location second
            cause →
            Unresolved verifier artifactId [.request detail first, .request view second]
              (.request cause)
  /-- The address in the view is not accepted. -/
  | address {detail view : Request} {first second : Answer} {shown artifact : Artifact}
      {failure : Failure} :
      verifier.ShowsDetail artifactId detail first shown →
        verifier.AnswersView artifactId view second → Reports Artifact.read second artifact →
          Url.normalize artifact.downloadUrl = .error failure →
            Unresolved verifier artifactId [.request detail first, .request view second] failure

/-- A fault keeps the download address from being resolved. -/
inductive Disturbed (verifier : Verifier) (artifactId : String) : List Act → Fault → Prop where
  | detailBlocked {fault : Fault} :
      verifier.client.Blocks (artifactPath artifactId) none fault →
        Disturbed verifier artifactId [] fault
  | detailUpset {request : Request} {answer : Answer} {fault : Fault} :
      verifier.AsksDetail artifactId request → Upsets request.location answer fault →
        Disturbed verifier artifactId [.request request answer] fault
  | viewBlocked {detail : Request} {first : Answer} {shown : Artifact} {fault : Fault} :
      verifier.ShowsDetail artifactId detail first shown →
        verifier.client.Blocks (artifactPath artifactId) (some ("view", "DOWNLOAD")) fault →
          Disturbed verifier artifactId [.request detail first] fault
  | viewUpset {detail view : Request} {first second : Answer} {shown : Artifact} {fault : Fault} :
      verifier.ShowsDetail artifactId detail first shown →
        verifier.AsksView artifactId view → Upsets view.location second fault →
          Disturbed verifier artifactId [.request detail first, .request view second] fault
  /-- The view is no text. -/
  | viewText {detail view : Request} {first : Answer} {shown : Artifact} {response : Response}
      {fault : Fault} :
      verifier.ShowsDetail artifactId detail first shown →
        verifier.AsksView artifactId view → view.location.checkOrigin = .ok () →
          response.status = 200 → response.text = .error fault →
            Disturbed verifier artifactId
              [.request detail first, .request view (.response response)] fault

/-- The course of resolving a download address. -/
inductive Resolution (verifier : Verifier) (artifactId : String) :
    List Act → Except Halt String → Prop where
  | resolved {acts : List Act} {url : String} :
      verifier.Resolves artifactId acts url → Resolution verifier artifactId acts (.ok url)
  | unresolved {acts : List Act} {failure : Failure} :
      verifier.Unresolved artifactId acts failure →
        Resolution verifier artifactId acts (.error (.failure failure))
  | disturbed {acts : List Act} {fault : Fault} :
      verifier.Disturbed artifactId acts fault →
        Resolution verifier artifactId acts (.error (.fault fault))

theorem resolveDownload_follows (verifier : Verifier) (artifactId : String) :
    (verifier.resolveDownload artifactId).Follows (verifier.Resolution artifactId) := by
  have detail : (verifier.client.getArtifact artifactId).Follows _ :=
    verifier.client.fetch_follows _ _ _ _
  have view := Script.Follows.bind (verifier.client.getDownload_follows artifactId)
    fun artifact => Script.Follows.ofExcept (Url.normalize artifact.downloadUrl)
  have resolving : (verifier.resolveDownload artifactId).Follows _ :=
    Script.Follows.bind_discard detail view
  refine resolving.mono fun acts result follows => ?_
  cases follows with
  | stops stopped =>
    rename_i reason
    match reason with
    | .failure failure =>
      obtain ⟨_, _, _, rfl, asks, fails, rfl⟩ := stopped.failed (reads_recordIn _ _)
      exact .unresolved (.detail asks fails)
    | .fault fault =>
      rcases stopped.faulted with ⟨rfl, blocks⟩ | ⟨_, _, rfl, asks, faults⟩
      · exact .disturbed (.detailBlocked blocks)
      · cases faults with
        | upset upsets => exact .disturbed (.detailUpset asks upsets)
        | taken _ _ impossible => exact absurd impossible recordIn_ne_fault
  | goes gave rest =>
    obtain ⟨_, _, rfl, asks, reports⟩ := gave.reported (reads_recordIn _ _)
    have shows : verifier.ShowsDetail artifactId _ _ _ :=
      ⟨asks, reports, fun fault upsets => gave.not_faults nofun fault (.upset upsets)⟩
    cases rest with
    | stops stopped =>
      rename_i reason
      match reason with
      | .failure failure =>
        obtain ⟨_, _, _, rfl, asksView, fails, rfl⟩ := stopped.failed reads_viewIn
        exact .unresolved (.view shows ⟨asksView, stopped.not_faults nofun⟩ fails)
      | .fault fault =>
        rcases stopped.faulted with ⟨rfl, blocks⟩ | ⟨_, _, rfl, asksView, faults⟩
        · exact .disturbed (.viewBlocked shows blocks)
        · cases faults with
          | upset upsets => exact .disturbed (.viewUpset shows asksView upsets)
          | taken origin success taken =>
            exact .disturbed
              (.viewText shows asksView origin success (viewIn_eq_fault_iff.mp taken))
    | goes gave ended =>
      rename_i artifact
      obtain ⟨_, _, rfl, asksView, reportsView⟩ := gave.reported reads_viewIn
      obtain ⟨rfl, rfl⟩ := ended
      have answers : verifier.AnswersView artifactId _ _ := ⟨asksView, gave.not_faults nofun⟩
      cases normal : Url.normalize artifact.downloadUrl with
      | ok url => exact .resolved (.intro shows answers reportsView normal)
      | error failure => exact .unresolved (.address shows answers reportsView normal)

/-! ## The check -/

/-- The outcome of a check that failed. -/
def failedOutcome (artifactId : String) (downloadUrl : Option String) (failure : Failure) :
    Outcome where
  artifactId
  succeeded := false
  message := some s!"{failure.kind.label}: {failure.message}"
  downloadUrl

/-- The outcome of a refused download. -/
def refusedOutcome (artifactId url output : String) : Outcome where
  artifactId
  succeeded := false
  message := some s!"Access denied downloading artifact {artifactId}: {output}"
  downloadUrl := some url

/-- The outcome of a check that passed. -/
def passedOutcome (artifactId url : String) : Outcome where
  artifactId
  succeeded := true
  downloadUrl := some url

/-- The command that downloads an address in a pod. -/
def downloadIn (verifier : Verifier) (pod : Pod) (name url : String) : Command :=
  execCommand verifier.config.kubectl pod.deployment name (Shell.downloadCommand url)

/-- Whether the output of a download holds the phrase of a refusal. -/
def Refuses (output : String) : Prop :=
  accessDeniedPhrase.toList <:+: output.toList

theorem isAccessDenied_iff {output : String} : isAccessDenied output = true ↔ Refuses output :=
  Text.occursIn_iff

/-- A fault ends the check of an artifact. -/
inductive Interrupted (verifier : Verifier) (pod : Pod) (artifactId : String) :
    List Act → Fault → Prop where
  /-- The download address is not resolved. -/
  | disturbed {acts : List Act} {fault : Fault} :
      verifier.Disturbed artifactId acts fault →
        Interrupted verifier pod artifactId acts fault
  /-- The name of the pod is no text. -/
  | nameless {acts : List Act} {url : String} :
      verifier.Resolves artifactId acts url → (∀ name, pod.name ≠ .string name) →
        Interrupted verifier pod artifactId acts .wrongKind
  /-- The download cannot be passed on to the cluster. -/
  | upset {acts : List Act} {url name : String} {fault : Fault} :
      verifier.Resolves artifactId acts url → pod.name = .string name →
        Interrupted verifier pod artifactId
          (acts ++ [.command (verifier.downloadIn pod name url) (.fault fault)]) fault

/-- The course of the check of an artifact. -/
inductive Check (verifier : Verifier) (pod : Pod) (artifactId : String) :
    List Act → Except Halt Outcome → Prop where
  | unresolved {acts : List Act} {failure : Failure} :
      verifier.Unresolved artifactId acts failure →
        Check verifier pod artifactId acts (.ok (failedOutcome artifactId none failure))
  /-- The download does not run to its end. -/
  | unexecuted {acts : List Act} {url name : String} {answer : CommandAnswer} {failure : Failure} :
      verifier.Resolves artifactId acts url → pod.name = .string name →
        Executes verifier.config.kubectl pod.deployment name answer (.error (.failure failure)) →
          Check verifier pod artifactId
            (acts ++ [.command (verifier.downloadIn pod name url) answer])
            (.ok (failedOutcome artifactId (some url) failure))
  | refused {acts : List Act} {url name : String} {finished : Finished} :
      verifier.Resolves artifactId acts url → pod.name = .string name →
        RanToEnd finished.captured → Refuses finished.captured.output →
          Check verifier pod artifactId
            (acts ++ [.command (verifier.downloadIn pod name url) (.finished finished)])
            (.ok (refusedOutcome artifactId url finished.captured.output))
  | passed {acts : List Act} {url name : String} {finished : Finished} :
      verifier.Resolves artifactId acts url → pod.name = .string name →
        RanToEnd finished.captured → ¬ Refuses finished.captured.output →
          Check verifier pod artifactId
            (acts ++ [.command (verifier.downloadIn pod name url) (.finished finished)])
            (.ok (passedOutcome artifactId url))
  | interrupted {acts : List Act} {fault : Fault} :
      verifier.Interrupted pod artifactId acts fault →
        Check verifier pod artifactId acts (.error (.fault fault))

theorem download_follows (verifier : Verifier) (pod : Pod) (url : String) :
    (verifier.download pod url).Follows
      (Execution verifier.config.kubectl pod.deployment pod.name (Shell.downloadCommand url)) :=
  outputInPod_follows _ _ _ _

/-- The outcome that the end of a download gives. -/
def outcomeOf (artifactId url : String) : Except Failure String → Outcome
  | .error failure => failedOutcome artifactId (some url) failure
  | .ok output =>
    if isAccessDenied output then refusedOutcome artifactId url output
    else passedOutcome artifactId url

/-- The course of a check after the attempt to resolve the download address. -/
def AfterResolution (verifier : Verifier) (pod : Pod) (artifactId : String) :
    Except Failure String → Course Outcome
  | .error failure => Course.ends (.ok (failedOutcome artifactId none failure))
  | .ok url =>
    Course.Next
      (Course.Attempted (Execution verifier.config.kubectl pod.deployment pod.name
        (Shell.downloadCommand url)))
      fun executed => Course.ends (.ok (outcomeOf artifactId url executed))

/-- A check ends as its download does. -/
theorem Resolves.check_of_download {verifier : Verifier} {pod : Pod} {artifactId url : String}
    {before after : List Act} {result : Except Halt Outcome}
    (resolves : verifier.Resolves artifactId before url)
    (downloads : verifier.AfterResolution pod artifactId (.ok url) after result) :
    verifier.Check pod artifactId (before ++ after) result := by
  cases downloads with
  | stops stopped =>
    cases stopped with
    | broke broke =>
      cases broke with
      | nameless nameless =>
        rw [List.append_nil]
        exact .interrupted (.nameless resolves nameless)
      | run named executes =>
        cases executes with
        | upset fault => exact .interrupted (.upset resolves named)
  | goes attempted ended =>
    obtain ⟨rfl, rfl⟩ := ended
    rw [List.append_nil]
    cases attempted with
    | failed failed =>
      cases failed with
      | run named executes => exact .unexecuted resolves named executes
    | gave gave =>
      cases gave with
      | run named executes =>
        cases executes with
        | completed completed =>
          rename_i finished
          simp only [outcomeOf]
          split
          · rename_i refusal
            exact .refused resolves named completed (isAccessDenied_iff.mp refusal)
          · rename_i granted
            exact .passed resolves named completed (by rwa [← isAccessDenied_iff])

theorem verifyArtifact_follows (verifier : Verifier) (pod : Pod) (artifactId : String) :
    (verifier.verifyArtifact pod artifactId).Follows (verifier.Check pod artifactId) := by
  unfold verifyArtifact
  refine (Script.Follows.bind (verifier.resolveDownload_follows artifactId).attempt
    (show ∀ resolved, Script.Follows _ (verifier.AfterResolution pod artifactId resolved) from
      fun resolved => ?_)).mono fun acts result follows => ?_
  · cases resolved with
    | error failure =>
      exact Script.Follows.after_log fun _ => Script.Follows.done ⟨rfl, rfl⟩
    | ok url =>
      refine Script.Follows.bind (verifier.download_follows pod url).attempt fun executed => ?_
      cases executed with
      | error failure =>
        exact Script.Follows.after_log fun _ => Script.Follows.done ⟨rfl, rfl⟩
      | ok output =>
        simp only [outcomeOf]
        split
        · exact Script.Follows.after_log fun _ => Script.Follows.done ⟨rfl, rfl⟩
        · exact Script.Follows.after_log fun _ => Script.Follows.done ⟨rfl, rfl⟩
  · cases follows with
    | stops stopped =>
      cases stopped with
      | broke broke =>
        cases broke with
        | disturbed disturbed => exact .interrupted (.disturbed disturbed)
    | goes attempted rest =>
      cases attempted with
      | failed failed =>
        cases failed with
        | unresolved unresolved =>
          obtain ⟨rfl, rfl⟩ := rest
          rw [List.append_nil]
          exact .unresolved unresolved
      | gave gave =>
        cases gave with
        | resolved resolves => exact resolves.check_of_download rest

end ArtifactAudit.Scenario.Verifier
