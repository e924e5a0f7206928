import ArtifactAudit.Proofs.Scenario.Progress
import ArtifactAudit.Proofs.Scenario.Verdict

/-!
# Checks and faults

The failure of a check becomes the outcome of its artifact, and no check sees what
came of another. A fault does not: checks of several artifacts give outcomes if and
only if none of them is interrupted, and the first one that is takes the outcomes of
all the others with it (`verifyArtifacts_isolates`). An identifier that leads to no
location is enough (`verifyArtifacts_of_unlocated`).
-/

set_option autoImplicit false

namespace ArtifactAudit.Scenario.Verifier

open Platform Platform.Client Cluster

variable {verifier : Verifier} {pod : Pod} {artifactId : String} {acts : List Act}

/-! ## Interrupted checks -/

/-- A failure to resolve an address comes without a fault. -/
theorem Unresolved.not_disturbed {failure : Failure}
    (unresolved : verifier.Unresolved artifactId acts failure) (fault : Fault) :
    ¬ verifier.Disturbed artifactId acts fault := by
  intro disturbed
  cases unresolved with
  | detail _ fails =>
    cases disturbed with
    | detailUpset _ upsets => exact fails.not_upsets fault upsets
    | viewBlocked shows => exact fails.not_reports _ shows.reports
  | view _ answers | address _ answers =>
    cases disturbed with
    | viewUpset _ _ upsets => exact answers.unfaulted fault (.upset upsets)
    | viewText _ _ origin success shown =>
      exact answers.unfaulted fault (.taken origin success (viewIn_eq_fault_iff.mpr shown))

/-- An address that is resolved is not unresolved. -/
theorem Unresolved.not_resolves {failure : Failure}
    (unresolved : verifier.Unresolved artifactId acts failure) (url : String) :
    ¬ verifier.Resolves artifactId acts url := by
  intro resolves
  cases unresolved with
  | detail => cases resolves
  | view _ _ fails =>
    cases resolves with
    | intro _ _ reports => exact fails.not_reports _ reports
  | address _ _ reports rejected =>
    cases resolves with
    | intro _ _ again normal =>
      obtain rfl := again.unique reports
      rw [rejected] at normal
      cases normal

/-- What is seen of a download tells the resolved address from the command. -/
theorem Resolves.not_append_command {url other : String} {before : List Act} {command : Command}
    {answer : CommandAnswer} (resolves : verifier.Resolves artifactId before url) :
    ¬ verifier.Resolves artifactId (before ++ [.command command answer]) other := by
  intro again
  cases resolves
  cases again

theorem Resolves.not_disturbed_command {url : String} {before : List Act} {command : Command}
    {answer : CommandAnswer} (resolves : verifier.Resolves artifactId before url) (fault : Fault) :
    ¬ verifier.Disturbed artifactId (before ++ [.command command answer]) fault := by
  intro disturbed
  cases resolves
  cases disturbed

/-- A check whose download was answered is interrupted only by a faulty answer. -/
theorem Interrupted.answer {url : String} {before : List Act} {command : Command}
    {answer : CommandAnswer} {fault : Fault} (resolves : verifier.Resolves artifactId before url)
    (interrupted :
      verifier.Interrupted pod artifactId (before ++ [.command command answer]) fault) :
    answer = .fault fault := by
  generalize seen : before ++ [.command command answer] = acts at interrupted
  cases interrupted with
  | disturbed disturbed =>
    rw [← seen] at disturbed
    exact absurd disturbed (resolves.not_disturbed_command fault)
  | nameless again =>
    rw [← seen] at again
    exact absurd again resolves.not_append_command
  | upset =>
    have last := List.append_inj_right' seen rfl
    simp only [List.cons.injEq, Act.command.injEq, and_true] at last
    exact last.2

theorem Check.not_interrupted {outcome : Outcome}
    (check : verifier.Check pod artifactId acts (.ok outcome)) (fault : Fault) :
    ¬ verifier.Interrupted pod artifactId acts fault := by
  intro interrupted
  cases check with
  | unresolved unresolved =>
    cases interrupted with
    | disturbed disturbed => exact unresolved.not_disturbed fault disturbed
    | nameless resolves => exact unresolved.not_resolves _ resolves
    | upset resolves =>
      cases resolves
      cases unresolved
  | unexecuted resolves _ executes =>
    cases Interrupted.answer resolves interrupted
    cases executes
  | refused resolves | passed resolves => cases Interrupted.answer resolves interrupted

/-- A check that ends with a fault is interrupted by it. -/
theorem Check.interrupted_of_fault {fault : Fault}
    (check : verifier.Check pod artifactId acts (.error (.fault fault))) :
    verifier.Interrupted pod artifactId acts fault := by
  cases check with
  | interrupted interrupted => exact interrupted

/-- A check has an outcome if and only if it is not interrupted. -/
theorem Check.settled_iff {result : Except Halt Outcome}
    (check : verifier.Check pod artifactId acts result) :
    (∃ outcome, result = .ok outcome) ↔
      ∀ fault, ¬ verifier.Interrupted pod artifactId acts fault := by
  constructor
  · rintro ⟨outcome, rfl⟩
    exact check.not_interrupted
  · intro uninterrupted
    cases check with
    | interrupted interrupted => exact absurd interrupted (uninterrupted _)
    | _ => exact ⟨_, rfl⟩

/-! ## Several checks -/

/-- What checks of several artifacts end with. -/
structure Isolates (verifier : Verifier) (pod : Pod) (artifacts : List String)
    (checks : List CheckRecord) (result : Except Halt (List Outcome)) : Prop where
  /-- No failure ends them. -/
  unfailing : ∀ failure, result ≠ .error (.failure failure)
  /-- They give outcomes if and only if none of them is interrupted. -/
  settled : (∃ outcomes, result = .ok outcomes) ↔
    ∀ check ∈ checks, ∀ fault, ¬ verifier.Interrupted pod check.artifactId check.acts fault
  /-- There is one outcome for each artifact, in order. -/
  listed : ∀ outcomes, result = .ok outcomes →
    CheckRecord.artifacts checks = artifacts ∧ checks.map (·.result) = outcomes.map .ok ∧
      outcomes.map (·.artifactId) = artifacts
  /-- An outcome tells about its own check alone. -/
  judged : ∀ check ∈ checks, ∀ outcome, check.result = .ok outcome →
    verifier.Judges pod check.artifactId check.acts outcome
  /-- A fault is that of the first check that is interrupted. -/
  interrupted : ∀ fault, result = .error (.fault fault) →
    ∃ before check after, checks = before ++ check :: after ∧
      (∀ earlier ∈ before, ∃ outcome, earlier.result = .ok outcome) ∧
      verifier.Interrupted pod check.artifactId check.acts fault

theorem Recorded.isolates {artifacts : List String} {checks : List CheckRecord}
    {result : Except Halt (List Outcome)}
    (recorded : verifier.Recorded pod artifacts checks acts result) :
    verifier.Isolates pod artifacts checks result := by
  have judged : ∀ check ∈ checks, ∀ outcome, check.result = .ok outcome →
      verifier.Judges pod check.artifactId check.acts outcome := by
    intro check member outcome ended
    have course := recorded.checked check member
    rw [ended] at course
    exact course.judges
  refine ⟨?_, ⟨?_, ?_⟩, ?_, judged, ?_⟩
  · rintro failure rfl
    exact recorded.not_failed
  · rintro ⟨outcomes, rfl⟩ check member
    have settled := CheckRecord.outcomes_eq_ok_iff.mp recorded.ended.symm
    have course := recorded.checked check member
    exact course.settled_iff.mp (CheckRecord.settled_of_outcomes settled member)
  · intro uninterrupted
    rw [recorded.ended]
    exact CheckRecord.outcomes_of_settled fun check member =>
      (recorded.checked check member).settled_iff.mpr (uninterrupted check member)
  · rintro outcomes rfl
    have complete := recorded.complete outcomes rfl
    have settled := CheckRecord.outcomes_eq_ok_iff.mp recorded.ended.symm
    refine ⟨complete, settled, ?_⟩
    rw [← complete]
    exact CheckRecord.map_artifactId_of_outcomes settled fun check member outcome ended =>
      (judged check member outcome ended).identified
  · rintro fault rfl
    obtain ⟨before, check, after, rfl, settled, ended⟩ :=
      CheckRecord.outcomes_eq_error recorded.ended.symm
    have course := recorded.checked check (by simp)
    rw [ended] at course
    exact ⟨before, check, after, rfl, settled, course.interrupted_of_fault⟩

/-- Checks of several artifacts, one at a time or not, leave a record each, in the
order of the artifacts. They give one outcome for each artifact if and only if none
of them is interrupted, and otherwise they end with the first interruption. -/
theorem verifyArtifacts_isolates (verifier : Verifier) (pod : Pod) (artifacts : List String)
    {σ : Type} (world : World σ) (start : σ) :
    ∃ checks,
      actsOf ((verifier.verifyArtifacts pod artifacts).events world start) =
          CheckRecord.trail checks ∧
        CheckRecord.artifacts checks <+: artifacts ∧
        verifier.Isolates pod artifacts checks
          ((verifier.verifyArtifacts pod artifacts).play world start).1 := by
  obtain ⟨checks, recorded⟩ :=
    verifier.verifyArtifacts_follows pod artifacts _ _ (Script.runs_play world _ start)
  exact ⟨checks, recorded.trail, recorded.inOrder, recorded.isolates⟩

/-- The request for an artifact whose check has an outcome leads to a location. -/
theorem Check.located {outcome : Outcome}
    (check : verifier.Check pod artifactId acts (.ok outcome)) :
    verifier.client.locate? (artifactPath artifactId) none ≠ none := by
  have asked : ∀ {request : Request}, verifier.AsksDetail artifactId request →
      verifier.client.locate? (artifactPath artifactId) none ≠ none := by
    rintro request ⟨location, located, _⟩ unlocated
    rw [located] at unlocated
    cases unlocated
  cases check with
  | unresolved unresolved =>
    cases unresolved with
    | detail asks => exact asked asks
    | view shows | address shows => exact asked shows.asks
  | unexecuted resolves | refused resolves | passed resolves =>
    cases resolves with
    | intro shows => exact asked shows.asks

/-- One artifact whose identifier leads to no location is enough for none to have an
outcome. -/
theorem verifyArtifacts_of_unlocated (verifier : Verifier) (pod : Pod) {artifacts : List String}
    {artifactId : String} (member : artifactId ∈ artifacts)
    (unlocated : verifier.client.locate? (artifactPath artifactId) none = none) {σ : Type}
    (world : World σ) (start : σ) :
    ¬ ∃ outcomes, ((verifier.verifyArtifacts pod artifacts).play world start).1 = .ok outcomes := by
  rintro ⟨outcomes, ended⟩
  obtain ⟨checks, recorded⟩ :=
    verifier.verifyArtifacts_follows pod artifacts _ _ (Script.runs_play world _ start)
  rw [ended] at recorded
  rw [← recorded.complete outcomes rfl] at member
  obtain ⟨check, made, rfl⟩ := List.mem_map.mp member
  have settled := CheckRecord.outcomes_eq_ok_iff.mp recorded.ended.symm
  obtain ⟨outcome, same⟩ := CheckRecord.settled_of_outcomes settled made
  have course := recorded.checked check made
  rw [same] at course
  exact course.located unlocated

/-- The identifier of the first artifact leads to no location, and the second
artifact has no outcome. -/
theorem verifyArtifacts_hides_second :
    ¬ ∃ outcomes, ((sample.verifyArtifacts ⟨.string "pod", "ns"⟩ ["a\x01", "b"]).play
      (sampleWorld samplePods) []).1 = .ok outcomes :=
  verifyArtifacts_of_unlocated sample _ List.mem_cons_self (by decide) _ _

end ArtifactAudit.Scenario.Verifier
