import ArtifactAudit.Proofs.Scenario.Stages

/-!
# The states of a scenario and its failures

A scenario announces its states in order, and the verdict only when it ends with a
report. A failure that ends it belongs to the last state it announced: `Escapes`
lists the failures of each state, with the requests behind them. Both are proved
stage by stage, from the last stage back to the first (`Advances.stage`).
-/

set_option autoImplicit false

namespace ArtifactAudit.Scenario

/-- The states after a state, in order. -/
def State.later : State → List State
  | idle => [pipelineSubmitted, runStarted, runCompleted, artifactsListed, verdict]
  | pipelineSubmitted => [runStarted, runCompleted, artifactsListed, verdict]
  | runStarted => [runCompleted, artifactsListed, verdict]
  | runCompleted => [artifactsListed, verdict]
  | artifactsListed => [verdict]
  | verdict => []

/-- The state in which some acts leave a scenario. -/
def State.after (current : State) (acts : List Act) : State :=
  (statesOf acts).getLastD current

/-- What is announced last is the state, also if something else was announced before. -/
theorem State.after_announcement (current state : State) {before after : List Act}
    (silent : statesOf before = []) :
    current.after (before ++ [.announcement state] ++ after) = state.after after := by
  unfold State.after
  rw [statesOf_append, statesOf_append, silent]
  change ([state] ++ statesOf after).getLastD current = _
  cases statesOf after with
  | nil => rfl
  | cons first rest => rw [List.singleton_append, List.getLastD_cons, List.getLastD_cons]

namespace Verifier

open Platform Platform.Client Cluster

/-! ## Failures and their states -/

/-- The failures that end a scenario, by the state in which they leave it and with
what was seen. -/
inductive Escapes (verifier : Verifier) : State → List Act → Failure → Prop where
  | submission {acts : List Act} (message : String) (cause : Option RequestFailure) :
      Escapes verifier .idle acts (.submission message cause)
  | pipelineNotFound {acts : List Act} (message : String) :
      Escapes verifier .idle acts (.pipelineNotFound message)
  /-- The last request was for a page of the listing of pipelines, and it failed. -/
  | page (before : List Act) {request : Request} {answer : Answer} {cause : RequestFailure} :
      verifier.client.AsksPage request →
        Fails "PipelineListing" PipelineListing.read .get pipelinesPath request.location answer
          cause →
          Escapes verifier .idle (before ++ [.request request answer]) (.request cause)
  /-- The last request was to create the run, and it failed. -/
  | runCreation (before : List Act) {pipelineId : String} {request : Request} {answer : Answer}
      {cause : RequestFailure} (message : String) :
      verifier.AsksCreation pipelineId request →
        Fails "Run" Run.read .post runsPath request.location answer cause →
          Escapes verifier .pipelineSubmitted (before ++ [.request request answer])
            (.runCreation message (some cause))
  | runFailed {acts : List Act} (runId state : String) :
      Escapes verifier .runStarted acts (.runFailed runId state)
  | runTimeout {acts : List Act} (runId : String) (limit : Float) (lastState : Option String) :
      Escapes verifier .runStarted acts (.runTimeout runId limit lastState)
  /-- The last request was for the run, and it failed. -/
  | poll (before : List Act) {runId : String} {request : Request} {answer : Answer}
      {cause : RequestFailure} :
      verifier.client.AsksRun runId request →
        Fails "Run" Run.read .get (runPath runId) request.location answer cause →
          Escapes verifier .runStarted (before ++ [.request request answer]) (.request cause)
  /-- The last request was for the artifacts, and it failed. -/
  | listing (before : List Act) {request : Request} {answer : Answer} {cause : RequestFailure} :
      verifier.AsksArtifacts request →
        Fails "ArtifactListing" ArtifactListing.read .get artifactsPath request.location answer
          cause →
          Escapes verifier .runCompleted (before ++ [.request request answer]) (.request cause)
  | noArtifacts {acts : List Act} (message : String) :
      Escapes verifier .artifactsListed acts (.noArtifacts message)
  | podListing {acts : List Act} (message : String) :
      Escapes verifier .artifactsListed acts (.pod (.listing message))
  | podNotFound {acts : List Act} (message : String) :
      Escapes verifier .artifactsListed acts (.pod (.notFound message))

/-- What was seen earlier does not matter. -/
theorem Escapes.prepend {verifier : Verifier} {state : State} {acts : List Act} {failure : Failure}
    (escapes : verifier.Escapes state acts failure) (before : List Act) :
    verifier.Escapes state (before ++ acts) failure := by
  cases escapes with
  | submission message cause => exact .submission message cause
  | pipelineNotFound message => exact .pipelineNotFound message
  | page between asks fails =>
    rw [← List.append_assoc]
    exact .page (before ++ between) asks fails
  | runCreation between message asks fails =>
    rw [← List.append_assoc]
    exact .runCreation (before ++ between) message asks fails
  | runFailed runId state => exact .runFailed runId state
  | runTimeout runId limit lastState => exact .runTimeout runId limit lastState
  | poll between asks fails =>
    rw [← List.append_assoc]
    exact .poll (before ++ between) asks fails
  | listing between asks fails =>
    rw [← List.append_assoc]
    exact .listing (before ++ between) asks fails
  | noArtifacts message => exact .noArtifacts message
  | podListing message => exact .podListing message
  | podNotFound message => exact .podNotFound message

/-- The kinds of failure that belong to the check of an artifact. -/
def checkKinds : List Failure.Kind :=
  [.malformedUrl, .accessDenied, .execSetup, .stream, .verificationFailed]

/-- A failure of the check of an artifact ends no scenario. -/
theorem Escapes.kind_not_mem {verifier : Verifier} {state : State} {acts : List Act}
    {failure : Failure} (escapes : verifier.Escapes state acts failure) :
    failure.kind ∉ checkKinds := by
  cases escapes with
  | page | poll | listing =>
    rename_i cause _ _
    cases cause <;> simp [checkKinds, Failure.kind, RequestFailure.kind]
  | _ => simp [checkKinds, Failure.kind, PodFailure.kind]

/-! ## Silent courses -/

theorem statesOf_only {kind : Request → Prop} {acts : List Act} (only : Only kind acts) :
    statesOf acts = [] := by
  refine List.filterMap_eq_nil_iff.mpr fun act member => ?_
  obtain ⟨request, answer, rfl, _⟩ := only act member
  rfl

section

variable {verifier : Verifier} {acts : List Act}

theorem statesOf_uploading {result : Except Halt Unit}
    (uploading : verifier.Uploading acts result) : statesOf acts = [] := by
  cases uploading <;> rfl

theorem statesOf_lookup {name : String} {result : Except Halt String}
    (lookup : verifier.client.Lookup name acts result) : statesOf acts = [] := by
  cases lookup with
  | found pages => exact statesOf_only pages
  | missing pages => exact statesOf_only pages
  | broke breaks => exact statesOf_only breaks.only

theorem statesOf_submitting {result : Except Halt String}
    (submitting : verifier.Submitting acts result) : statesOf acts = [] := by
  cases submitting with
  | stops uploading => exact statesOf_uploading uploading
  | goes uploading lookup =>
    rw [statesOf_append, statesOf_uploading uploading, statesOf_lookup lookup]
    rfl

theorem statesOf_creating {pipelineId : String} {result : Except Halt Run}
    (creating : verifier.Creating pipelineId acts result) : statesOf acts = [] := by
  cases creating <;> rfl

theorem statesOf_listing {result : Except Halt (List Artifact)}
    (listing : verifier.Listing acts result) : statesOf acts = [] := by
  cases listing <;> rfl

theorem statesOf_locating {result : Except Halt Pod} (locating : verifier.Locating acts result) :
    statesOf acts = [] := by
  cases locating <;> rfl

theorem statesOf_resolves {artifactId url : String}
    (resolves : verifier.Resolves artifactId acts url) : statesOf acts = [] := by
  cases resolves
  rfl

theorem statesOf_check {pod : Pod} {artifactId : String} {result : Except Halt Outcome}
    (check : verifier.Check pod artifactId acts result) : statesOf acts = [] := by
  cases check with
  | unresolved unresolved => cases unresolved <;> rfl
  | unexecuted resolves | refused resolves | passed resolves =>
    rw [statesOf_append, statesOf_resolves resolves]
    rfl
  | interrupted interrupted =>
    cases interrupted with
    | disturbed disturbed => cases disturbed <;> rfl
    | nameless resolves => exact statesOf_resolves resolves
    | upset resolves =>
      rw [statesOf_append, statesOf_resolves resolves]
      rfl

theorem statesOf_recorded {pod : Pod} {artifacts : List String} {records : List CheckRecord}
    {result : Except Halt (List Outcome)}
    (recorded : verifier.Recorded pod artifacts records acts result) : statesOf acts = [] := by
  rw [recorded.trail]
  have checked := recorded.checked
  clear recorded
  induction records with
  | nil => rfl
  | cons record records ih =>
    rw [CheckRecord.trail_cons, statesOf_append, statesOf_check (checked record List.mem_cons_self),
      ih fun other member => checked other (List.mem_cons_of_mem record member)]
    rfl

end

/-! ## The failures of the stages -/

section

variable {verifier : Verifier} {acts : List Act} {failure : Failure}

theorem Escapes.of_submitting
    (submitting : verifier.Submitting acts (.error (.failure failure))) :
    verifier.Escapes .idle acts failure := by
  cases submitting with
  | stops uploading =>
    cases uploading with
    | unreadable | refused => exact .submission _ _
  | goes uploading lookup =>
    refine Escapes.prepend ?_ _
    cases lookup with
    | missing => exact .pipelineNotFound _
    | broke breaks =>
      cases breaks with
      | failed before _ asks fails => exact .page before asks fails

theorem Escapes.of_creating {pipelineId : String}
    (creating : verifier.Creating pipelineId acts (.error (.failure failure))) :
    verifier.Escapes .pipelineSubmitted acts failure := by
  cases creating with
  | failed asks fails => exact .runCreation [] _ asks fails

theorem Escapes.of_wait {runId : String}
    (wait : verifier.client.Wait runId acts (.error (.failure failure))) :
    verifier.Escapes .runStarted acts failure := by
  cases wait with
  | concluded _ _ _ _ concludes =>
    cases concludes with
    | ended => exact .runFailed _ _
    | late => exact .runTimeout _ _ _
  | broke breaks =>
    cases breaks with
    | failed before _ asks fails => exact .poll before asks fails

theorem Escapes.of_listing (listing : verifier.Listing acts (.error (.failure failure))) :
    verifier.Escapes .runCompleted acts failure := by
  cases listing with
  | failed asks fails => exact .listing [] asks fails

theorem Escapes.of_locating (locating : verifier.Locating acts (.error (.failure failure))) :
    verifier.Escapes .artifactsListed acts failure := by
  cases locating with
  | asked _ locates =>
    cases locates with
    | unlisted => exact .podListing _
    | missing => exact .podNotFound _

/-- A check does not end with a failure. -/
theorem Check.not_failed {pod : Pod} {artifactId : String} :
    ¬ verifier.Check pod artifactId acts (.error (.failure failure)) := by
  intro check
  cases check

/-- Neither do several checks. -/
theorem Recorded.not_failed {pod : Pod} {artifacts : List String} {records : List CheckRecord} :
    ¬ verifier.Recorded pod artifacts records acts (.error (.failure failure)) := by
  intro recorded
  obtain ⟨_, record, _, rfl, _, ended⟩ := CheckRecord.outcomes_eq_error recorded.ended.symm
  have check := recorded.checked record (by simp)
  rw [ended] at check
  exact check.not_failed

theorem Escapes.of_inspecting {runId : String} {artifacts : List Artifact}
    (inspecting : verifier.Inspecting verifier.Checking runId artifacts acts
      (.error (.failure failure))) :
    verifier.Escapes .artifactsListed acts failure := by
  unfold Inspecting at inspecting
  split at inspecting
  · obtain ⟨rfl, ended⟩ := inspecting
    unfold vacuous at ended
    split at ended
    · cases ended
      exact .noArtifacts _
    · cases ended
  · cases inspecting with
    | stops locating => exact .of_locating locating
    | goes _ rest =>
      cases rest with
      | stops checking =>
        obtain ⟨_, recorded⟩ := checking
        exact absurd recorded Recorded.not_failed
      | goes _ ended => cases ended.2

theorem statesOf_inspecting {runId : String} {artifacts : List Artifact}
    {result : Except Halt Report}
    (inspecting : verifier.Inspecting verifier.Checking runId artifacts acts result) :
    statesOf acts = [] := by
  unfold Inspecting at inspecting
  split at inspecting
  · obtain ⟨rfl, _⟩ := inspecting
    rfl
  · cases inspecting with
    | stops locating => exact statesOf_locating locating
    | goes locating rest =>
      rw [statesOf_append, statesOf_locating locating, List.nil_append]
      cases rest with
      | stops checking =>
        obtain ⟨_, recorded⟩ := checking
        exact statesOf_recorded recorded
      | goes checking ended =>
        obtain ⟨_, recorded⟩ := checking
        obtain ⟨rfl, _⟩ := ended
        rw [statesOf_append, statesOf_recorded recorded]
        rfl

end

/-! ## From stage to stage -/

/-- What a scenario may leave behind from a state on: it announces the states that
follow in order, the verdict if and only if it ends with a report, and a failure
that ends it belongs to the last state. -/
structure Advances (verifier : Verifier) (current : State) (acts : List Act)
    (result : Except Halt Report) : Prop where
  /-- The states are announced in order. -/
  inOrder : statesOf acts <+: current.later
  /-- The verdict comes with a report. -/
  verdict : .verdict ∈ statesOf acts ↔ ∃ report, result = .ok report
  /-- A failure belongs to the last state. -/
  escapes : ∀ failure, result = .error (.failure failure) →
    verifier.Escapes (current.after acts) acts failure

section

variable {verifier : Verifier} {α : Type} {course : Course α} {current state : State}

/-- A stage that ends the scenario announces nothing. -/
theorem Advances.stopped {acts : List Act} {reason : Halt} (silent : statesOf acts = [])
    (fails : ∀ failure, reason = .failure failure → verifier.Escapes current acts failure) :
    verifier.Advances current acts (.error reason) where
  inOrder := by simp [silent]
  verdict := by simp [silent]
  escapes failure ended := by
    unfold State.after
    rw [silent]
    cases ended
    exact fails failure rfl

/-- A stage, and what follows the state that it reaches. -/
theorem Advances.stage {second : α → Course Report} (follows : current.later = state :: state.later)
    (unfinished : state ≠ .verdict)
    (silent : ∀ acts result, course acts result → statesOf acts = [])
    (fails : ∀ acts failure, course acts (.error (.failure failure)) →
      verifier.Escapes current acts failure)
    (rest : ∀ value acts result, second value acts result → verifier.Advances state acts result)
    (acts : List Act) (result : Except Halt Report)
    (next : Course.Next (Reaching course state) second acts result) :
    verifier.Advances current acts result := by
  cases next with
  | stops stopped =>
    cases stopped with
    | stopped stopped =>
      refine .stopped (silent _ _ stopped) fun failure same => ?_
      rw [same] at stopped
      exact fails _ _ stopped
  | goes reached later =>
    cases reached with
    | reached gave =>
      have announced := silent _ _ gave
      obtain ⟨inOrder, verdict, escapes⟩ := rest _ _ _ later
      refine ⟨?_, ?_, fun failure ended => ?_⟩
      · rw [statesOf_append, statesOf_append, announced, follows]
        exact (List.prefix_cons_inj state).mpr inOrder
      · rw [statesOf_append, statesOf_append, announced, ← verdict]
        change _ ∈ state :: statesOf _ ↔ _
        simp [unfinished.symm]
      · rw [State.after_announcement current state announced]
        exact (escapes failure ended).prepend _

/-- The stage that reaches the verdict. -/
theorem Advances.last {course : Course Report}
    (silent : ∀ acts result, course acts result → statesOf acts = [])
    (fails : ∀ acts failure, course acts (.error (.failure failure)) →
      verifier.Escapes .artifactsListed acts failure)
    (acts : List Act) (result : Except Halt Report)
    (reaching : Reaching course .verdict acts result) :
    verifier.Advances .artifactsListed acts result := by
  cases reaching with
  | stopped stopped =>
    refine .stopped (silent _ _ stopped) fun failure same => ?_
    rw [same] at stopped
    exact fails _ _ stopped
  | reached gave =>
    have announced := silent _ _ gave
    refine ⟨?_, ?_, fun failure ended => by cases ended⟩
    · rw [statesOf_append, announced]
      exact List.prefix_rfl
    · rw [statesOf_append, announced]
      simp [statesOf, Act.state?]

/-- The stages of a scenario advance from the start to the verdict. -/
theorem Advances.of_stages {acts : List Act} {result : Except Halt Report}
    (stages : verifier.Stages verifier.Checking acts result) :
    verifier.Advances .idle acts result := by
  refine stage rfl (by decide) (fun _ _ => statesOf_submitting)
    (fun _ _ => Escapes.of_submitting) (fun pipelineId => ?_) _ _ stages
  refine stage rfl (by decide) (fun _ _ => statesOf_creating)
    (fun _ _ => Escapes.of_creating) fun run => ?_
  refine stage rfl (by decide) (fun _ _ wait => statesOf_only wait.only)
    (fun _ _ => Escapes.of_wait) fun _ => ?_
  refine stage rfl (by decide) (fun _ _ => statesOf_listing)
    (fun _ _ => Escapes.of_listing) fun artifacts => ?_
  exact last (fun _ _ => statesOf_inspecting) fun _ _ => Escapes.of_inspecting

end

/-- The states that a scenario announces are the first ones after `idle`, in order
and each once. The verdict is among them if and only if the scenario ends with a
report. A failure that ends it belongs to the last of them, and is never that of
the check of an artifact. -/
theorem run_announces_in_order (verifier : Verifier) {σ : Type} (world : World σ) (start : σ) :
    let acts := actsOf ((verifier.run .idle).events world start)
    let result := ((verifier.run .idle).play world start).1
    statesOf acts <+:
        [.pipelineSubmitted, .runStarted, .runCompleted, .artifactsListed, .verdict] ∧
      (.verdict ∈ statesOf acts ↔ ∃ report, result = .ok report) ∧
      ∀ failure, result = .error (.failure failure) →
        verifier.Escapes ((statesOf acts).getLastD .idle) acts failure ∧
          failure.kind ∉ [.malformedUrl, .accessDenied, .execSetup, .stream,
            .verificationFailed] := by
  intro acts result
  have advances := Advances.of_stages (verifier.stages_play .idle world start)
  refine ⟨advances.inOrder, advances.verdict, fun failure ended => ?_⟩
  have escapes := advances.escapes failure ended
  exact ⟨escapes, escapes.kind_not_mem⟩

end Verifier

end ArtifactAudit.Scenario
