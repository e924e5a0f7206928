import ArtifactAudit.Proofs.Scenario.Progress
import ArtifactAudit.Proofs.Script.Phases

/-!
# The call protocol of a scenario

The calls of a scenario that checks one artifact at a time: the upload, the lookup of
the pipeline, the creation of the run, the polls, the listing of the artifacts, and if
there are any the lookup of the pod and the calls for each artifact. `Protocol` puts
these phases after one another, and `run_follows_protocol` says that the calls of
every run are of this form, however the run ends.
-/

set_option autoImplicit false

namespace ArtifactAudit

/-- Announcing a state is no call. -/
theorem Keeps.reaching {α : Type} {course : Course α} {phase : Phase} {gives : List Act → α → Prop}
    (keeps : Keeps course phase gives) (state : Scenario.State) :
    Keeps (Scenario.Reaching course state) phase gives where
  calls acts result seen := by
    cases seen with
    | stopped stopped => exact keeps.calls _ _ stopped
    | reached gave =>
      rw [callsOf_announced]
      exact keeps.calls _ _ gave
  given acts value seen := by
    cases seen with
    | reached gave =>
      rw [callsOf_announced]
      exact keeps.given _ _ gave
  ungiven acts failure seen := by
    cases seen with
    | stopped stopped => exact keeps.ungiven _ _ stopped

namespace Scenario

open Platform Platform.Client Cluster

/-! ## Requests -/

inductive One (kind : Request → Prop) : Phase where
  /-- Only a fault keeps it from being sent. -/
  | unsent {broke : Prop} : broke → One kind broke []
  | sent {broke : Prop} {request : Request} {answer : Answer} :
      kind request → One kind broke [.request request answer]

/-- Requests of a kind. Only a fault keeps the first one from being sent. -/
structure Several (kind : Request → Prop) (broke : Prop) (acts : List Act) : Prop where
  only : Only kind acts
  some : acts = [] → broke

/-- Requests that come to nothing without a fault have been sent. -/
theorem Several.of_breaks {α : Type} {kind : Request → Prop}
    {fails : Request → Answer → RequestFailure → Prop} {acts : List Act} {reason : Halt}
    (breaks : Breaks kind fails acts reason) :
    Several kind (Faulted (.error reason : Except Halt α)) acts where
  only := breaks.only
  some empty := by
    cases breaks with
    | failed before => simp at empty
    | fault => trivial

namespace Verifier

/-! ## The phases of a scenario -/

/-- The calls of the upload: the definition is read, and sent if it can be read. -/
inductive UploadCalls (verifier : Verifier) : Phase where
  /-- Only a fault keeps the definition from being read. -/
  | unread {broke : Prop} : broke → UploadCalls verifier broke []
  /-- Only a fault keeps a definition that was read from being sent. -/
  | read {broke : Prop} {answer : FileAnswer} :
      ((∃ bytes, answer = .content bytes) → broke) →
        UploadCalls verifier broke [.file verifier.definition.text answer]
  | sent {broke : Prop} {bytes : List UInt8} {request : Request} {answer : Answer} :
      verifier.AsksUpload bytes request →
        UploadCalls verifier broke
          [.file verifier.definition.text (.content bytes), .request request answer]

/-- The upload is answered with status 200. -/
def Accepts (acts : List Act) (_ : Unit) : Prop :=
  ∃ file request response, acts = [file, .request request (.response response)] ∧
    response.status = 200

/-- The last poll reports that the run has succeeded. -/
def Succeeds (acts : List Act) (run : Run) : Prop :=
  Ends Run.read acts run ∧ run.state = .succeeded

def ListsArtifacts (acts : List Act) (artifacts : List Artifact) : Prop :=
  Ends ArtifactListing.read acts { artifacts }

/-- The lookup of the pod is one command. -/
def PodCalls (verifier : Verifier) (_ : Prop) (acts : List Act) : Prop :=
  ∃ answer, acts = [.command verifier.podLookup answer]

/-- The lookup of the pod gives a pod. -/
def GivesPod (verifier : Verifier) (acts : List Act) (pod : Pod) : Prop :=
  ∃ answer, acts = [.command verifier.podLookup answer] ∧
    podIn? verifier.config.deployment answer = some pod

/-- The download view is reported, and the address in it is accepted. -/
def GivesAddress (acts : List Act) (url : String) : Prop :=
  ∃ artifact, Ends Artifact.read acts artifact ∧ Url.normalize artifact.downloadUrl = .ok url

/-- The download of an address in a pod is one command. -/
inductive DownloadCalls (verifier : Verifier) (pod : Pod) (url : String) : Phase where
  /-- Only a fault keeps it from being run. -/
  | unsent {broke : Prop} : broke → DownloadCalls verifier pod url broke []
  | sent {broke : Prop} {name : String} {answer : CommandAnswer} :
      pod.name = .string name →
        DownloadCalls verifier pod url broke [.command (verifier.downloadIn pod name url) answer]

/-- The calls of the check of an artifact: it is asked for, then its download view,
and then the download is run. -/
def CheckCalls (verifier : Verifier) (pod : Pod) (artifactId : String) : Phase :=
  Then (One (verifier.AsksDetail artifactId)) (Ends Artifact.read) fun _ =>
    Then (One (verifier.AsksView artifactId)) GivesAddress fun url =>
      verifier.DownloadCalls pod url

/-- The calls for listed artifacts: none if there are none, and otherwise the lookup
of the pod and the checks, in the order of the listing. -/
def InspectionCalls (verifier : Verifier) (artifacts : List Artifact) : Phase :=
  if artifacts.isEmpty then fun _ acts => acts = []
  else Then verifier.PodCalls verifier.GivesPod fun pod =>
    Each (verifier.CheckCalls pod) (artifacts.map (·.artifactId))

/-- The calls of a scenario. -/
def Protocol (verifier : Verifier) : Phase :=
  Then verifier.UploadCalls Accepts fun _ =>
    Then (Several verifier.client.AsksPage) (Finds verifier.config.pipelineName) fun pipelineId =>
      Then (One (verifier.AsksCreation pipelineId)) (Ends Run.read) fun run =>
        Then (Several (verifier.client.AsksRun run.runId)) Succeeds fun _ =>
          Then (One verifier.AsksArtifacts) ListsArtifacts fun artifacts =>
            verifier.InspectionCalls artifacts

/-! ## The phases are kept -/

variable {verifier : Verifier}

theorem keeps_uploading : Keeps verifier.Uploading verifier.UploadCalls Accepts := by
  refine .of_silent (fun _ _ => statesOf_uploading) ?_ ?_ ?_
  · intro acts result uploading
    cases uploading with
    | unnamed fault => exact .unread trivial
    | unreadable error message => exact .read nofun
    | misread fault => exact .read nofun
    | unsent bytes fault => exact .read fun _ => trivial
    | upset fault asks => exact .sent asks
    | refused asks denies => exact .sent asks
    | uploaded asks success => exact .sent asks
  · intro acts value uploading
    cases uploading with
    | uploaded asks success => exact ⟨_, _, _, rfl, success⟩
  · intro acts failure uploading value accepts
    obtain ⟨_, _, _, same, success⟩ := accepts
    cases uploading with
    | unreadable => cases same
    | refused _ denies =>
      cases same
      cases denies with
      | status _ other _ => exact other success

theorem keeps_lookup (name : String) :
    Keeps (verifier.client.Lookup name) (Several verifier.client.AsksPage) (Finds name) := by
  refine .of_silent (fun _ _ => statesOf_lookup) ?_ ?_ ?_
  · intro acts result lookup
    cases lookup with
    | found pages finds =>
      obtain ⟨⟨_, ends⟩, _⟩ := finds
      exact ⟨pages, fun empty => absurd empty ends.ne_nil⟩
    | missing pages ends => exact ⟨pages, fun empty => absurd empty ends.ne_nil⟩
    | broke breaks => exact .of_breaks breaks
  · intro acts pipelineId lookup
    cases lookup with
    | found _ finds => exact finds
  · intro acts failure lookup pipelineId finds
    obtain ⟨⟨last, ends⟩, pipeline, lists, named, _⟩ := finds
    cases lookup with
    | missing _ _ unnamed => exact unnamed pipeline lists named
    | broke breaks => exact breaks.not_ends last ends

theorem keeps_creating (pipelineId : String) :
    Keeps (verifier.Creating pipelineId) (One (verifier.AsksCreation pipelineId))
      (Ends Run.read) := by
  refine .of_silent (fun _ _ => statesOf_creating) ?_ ?_ ?_
  · intro acts result creating
    cases creating with
    | unsent fault => exact .unsent trivial
    | upset fault asks => exact .sent asks
    | failed asks fails => exact .sent asks
    | created asks reports => exact .sent asks
  · intro acts run creating
    cases creating with
    | created asks reports => exact .single reports
  · intro acts failure creating run ends
    cases creating with
    | failed asks fails => exact fails.not_reports run ends.reports_single

theorem keeps_wait (runId : String) :
    Keeps (verifier.client.Wait runId) (Several (verifier.client.AsksRun runId)) Succeeds := by
  refine .of_silent (fun _ _ wait => statesOf_only wait.only) ?_ ?_ ?_
  · intro acts result wait
    cases wait with
    | concluded before earlier asks =>
      exact ⟨earlier.append (.single asks), fun empty => by simp at empty⟩
    | broke breaks => exact .of_breaks breaks
  · intro acts run wait
    cases wait with
    | concluded before _ asks reports concludes =>
      cases concludes with
      | succeeded success => exact ⟨(Ends.single reports).prepend before, success⟩
  · intro acts failure wait run succeeds
    obtain ⟨ends, success⟩ := succeeds
    cases wait with
    | concluded before _ asks reports concludes =>
      obtain rfl := (ends.reports before).unique reports
      cases concludes with
      | ended _ other => exact other success
      | late running =>
        rw [success] at running
        cases running
    | broke breaks => exact breaks.not_ends run ends

theorem keeps_listing :
    Keeps verifier.Listing (One verifier.AsksArtifacts) ListsArtifacts := by
  refine .of_silent (fun _ _ => statesOf_listing) ?_ ?_ ?_
  · intro acts result listing
    cases listing with
    | unsent fault => exact .unsent trivial
    | upset fault asks => exact .sent asks
    | failed asks fails => exact .sent asks
    | listed asks reports => exact .sent asks
  · intro acts artifacts listing
    cases listing with
    | listed asks reports => exact .single reports
  · intro acts failure listing artifacts ends
    cases listing with
    | failed asks fails => exact fails.not_reports _ (Ends.reports_single ends)

theorem keeps_locating (named : verifier.config.deployment ≠ "") :
    Keeps verifier.Locating verifier.PodCalls verifier.GivesPod := by
  refine .of_silent (fun _ _ => statesOf_locating) ?_ ?_ ?_
  · intro acts result locating
    cases locating with
    | unnamed fault unnamed => exact absurd unnamed named
    | asked => exact ⟨_, rfl⟩
  · intro acts pod locating
    cases locating with
    | asked _ locates =>
      cases locates with
      | found found => exact ⟨_, rfl, found⟩
  · intro acts failure locating pod gives
    obtain ⟨answer, same, found⟩ := gives
    cases locating with
    | asked _ locates =>
      cases same
      cases locates with
      | unlisted _ none | missing _ none =>
        rw [none] at found
        cases found

/-! ## The calls for the artifacts -/

/-- An artifact that is shown has been asked for, and what is due follows. -/
theorem ShowsDetail.checkCalls {pod : Pod} {artifactId : String} {request : Request}
    {answer : Answer} {artifact : Artifact} {after : List Act} {broke : Prop}
    (shows : verifier.ShowsDetail artifactId request answer artifact)
    (rest : Then (One (verifier.AsksView artifactId)) GivesAddress (verifier.DownloadCalls pod)
      broke after) :
    verifier.CheckCalls pod artifactId broke (.request request answer :: after) :=
  .goes [.request request answer] after (.sent shows.asks) (.single shows.reports) rest

theorem Resolves.checkCalls {pod : Pod} {artifactId url : String} {before after : List Act}
    {broke : Prop} (resolves : verifier.Resolves artifactId before url)
    (download : verifier.DownloadCalls pod url broke after) :
    verifier.CheckCalls pod artifactId broke (before ++ after) := by
  cases resolves with
  | intro shows answers reports normal =>
    exact shows.checkCalls
      (.goes [_] after (.sent answers.asks) ⟨_, .single reports, normal⟩ download)

theorem Unresolved.checkCalls {pod : Pod} {artifactId : String} {acts : List Act}
    {failure : Failure} {broke : Prop} (unresolved : verifier.Unresolved artifactId acts failure) :
    verifier.CheckCalls pod artifactId broke acts := by
  cases unresolved with
  | detail asks fails =>
    exact .stops (.sent asks) fun ⟨artifact, ends⟩ =>
      absurd ends.reports_single (fails.not_reports artifact)
  | view shows answers fails =>
    exact shows.checkCalls (.stops (.sent answers.asks) fun ⟨_, artifact, ends, _⟩ =>
      absurd ends.reports_single (fails.not_reports artifact))
  | address shows answers reports rejected =>
    refine shows.checkCalls (.stops (.sent answers.asks) ?_)
    rintro ⟨url, artifact, ends, normal⟩
    obtain rfl := ends.reports_single.unique reports
    rw [rejected] at normal
    cases normal

theorem Disturbed.checkCalls {pod : Pod} {artifactId : String} {acts : List Act} {fault : Fault}
    {broke : Prop} (faulty : broke) (disturbed : verifier.Disturbed artifactId acts fault) :
    verifier.CheckCalls pod artifactId broke acts := by
  cases disturbed with
  | detailBlocked => exact .stops (.unsent faulty) fun _ => faulty
  | detailUpset asks => exact .stops (.sent asks) fun _ => faulty
  | viewBlocked shows => exact shows.checkCalls (.stops (.unsent faulty) fun _ => faulty)
  | viewUpset shows asks => exact shows.checkCalls (.stops (.sent asks) fun _ => faulty)
  | viewText shows asks => exact shows.checkCalls (.stops (.sent asks) fun _ => faulty)

theorem Check.calls {pod : Pod} {artifactId : String} {acts : List Act}
    {result : Except Halt Outcome} (check : verifier.Check pod artifactId acts result) :
    verifier.CheckCalls pod artifactId (Faulted result) acts := by
  cases check with
  | unresolved unresolved => exact unresolved.checkCalls
  | unexecuted resolves named => exact resolves.checkCalls (.sent named)
  | refused resolves named => exact resolves.checkCalls (.sent named)
  | passed resolves named => exact resolves.checkCalls (.sent named)
  | interrupted interrupted =>
    cases interrupted with
    | disturbed disturbed => exact disturbed.checkCalls trivial
    | nameless resolves =>
      rw [← List.append_nil acts]
      exact resolves.checkCalls (.unsent trivial)
    | upset resolves named => exact resolves.checkCalls (.sent named)

/-- The calls of checks that are made one at a time. -/
abbrev Sequence (verifier : Verifier) (pod : Pod) (artifacts : List String) :
    Course (List Outcome) :=
  fun acts result => Each (verifier.CheckCalls pod) artifacts (Faulted result) (callsOf acts)

theorem verifyEach_sequence (verifier : Verifier) (pod : Pod) (artifacts : List String) :
    (verifier.verifyEach pod artifacts).Follows (verifier.Sequence pod artifacts) := by
  induction artifacts with
  | nil => exact Script.Follows.done .nil
  | cons artifactId rest ih =>
    have checking : (verifier.verifyEach pod (artifactId :: rest)).Follows _ :=
      Script.Follows.bind (verifier.verifyArtifact_follows pod artifactId) fun outcome =>
        Script.Follows.bind ih fun outcomes => Script.Follows.returns (outcome :: outcomes)
    refine checking.mono fun acts result follows => ?_
    cases follows with
    | stops stopped =>
      unfold Sequence
      rw [callsOf_of_silent (statesOf_check stopped)]
      cases stopped with
      | interrupted interrupted => exact .stopped trivial (Check.interrupted interrupted).calls
    | goes check others =>
      unfold Sequence
      rw [callsOf_append, callsOf_of_silent (statesOf_check check)]
      obtain ⟨_, later, same⟩ := others.of_passing
      rw [← same]
      exact .cons check.calls later

theorem verifyArtifacts_sequence (sequential : verifier.config.maxWorkers ≤ 1) (pod : Pod)
    (artifacts : List String) :
    (verifier.verifyArtifacts pod artifacts).Follows (verifier.Sequence pod artifacts) := by
  have one : verifier.runsParallel artifacts = false := by
    simp [runsParallel, Int.not_lt.mpr sequential]
  unfold verifyArtifacts
  rw [if_neg (by simp [one])]
  exact verifier.verifyEach_sequence pod artifacts

/-! ## The protocol -/

theorem inspectionCalls_of_inspecting (named : verifier.config.deployment ≠ "") {runId : String}
    {artifacts : List Artifact} {acts : List Act} {result : Except Halt Report}
    (inspecting : verifier.Inspecting verifier.Sequence runId artifacts acts result) :
    verifier.InspectionCalls artifacts (Faulted result) (callsOf acts) := by
  unfold Inspecting at inspecting
  unfold InspectionCalls
  split at inspecting
  · rename_i empty
    obtain ⟨rfl, _⟩ := inspecting
    rw [if_pos empty]
    rfl
  · rename_i listing
    rw [if_neg listing]
    refine (keeps_locating named).next (fun pod acts result rest => ?_) _ _ inspecting
    obtain ⟨_, checked, same⟩ := rest.of_passing
    rw [← same]
    exact checked

theorem protocol_of_stages (named : verifier.config.deployment ≠ "") {acts : List Act}
    {result : Except Halt Report} (stages : verifier.Stages verifier.Sequence acts result) :
    verifier.Protocol (Faulted result) (callsOf acts) := by
  refine keeps_uploading.next (fun _ => ?_) _ _ (Reaching.assoc stages)
  refine ((keeps_lookup _).reaching _).next fun pipelineId => ?_
  refine ((keeps_creating pipelineId).reaching _).next fun run => ?_
  refine ((keeps_wait run.runId).reaching _).next fun _ => ?_
  refine (keeps_listing.reaching _).next fun artifacts acts result reaching => ?_
  cases reaching with
  | stopped stopped => exact inspectionCalls_of_inspecting named stopped
  | reached gave =>
    rw [callsOf_announced]
    exact inspectionCalls_of_inspecting named gave

/-- A scenario that checks one artifact at a time keeps to the protocol in every
world, whether it ends with a report, a failure or a fault. -/
theorem run_follows_protocol (verifier : Verifier) (named : verifier.config.deployment ≠ "")
    (sequential : verifier.config.maxWorkers ≤ 1) (current : State) {σ : Type} (world : World σ)
    (start : σ) :
    verifier.Protocol (Faulted ((verifier.run current).play world start).1)
      (callsOf (actsOf ((verifier.run current).events world start))) :=
  protocol_of_stages named
    (verifier.run_follows (verifyArtifacts_sequence sequential) current _ _
      (Script.runs_play world _ start))

theorem run_follows_protocol_sample :
    sample.config.deployment ≠ "" ∧ sample.config.maxWorkers ≤ 1 ∧
      sample.Protocol
        (Faulted ((sample.run .idle).play (sampleWorld samplePods) sampleAnswers).1)
        (callsOf (actsOf ((sample.run .idle).events (sampleWorld samplePods) sampleAnswers))) :=
  ⟨by decide, by decide,
    run_follows_protocol sample (by decide) (by decide) .idle (sampleWorld samplePods)
      sampleAnswers⟩

end Verifier

end Scenario

end ArtifactAudit
