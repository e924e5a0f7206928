import ArtifactAudit.Proofs.Scenario.Stages

/-!
# The verdict of a scenario

An artifact passes if the platform shows it and its download view, the address in
the view is accepted, the download runs to its end, and its output is no refusal.
These conditions are about what was seen of the check alone. `Judges` says what the
outcome of a check tells about them, and `run_verdict` what the report of a scenario
tells about the listed artifacts.
-/

set_option autoImplicit false

namespace ArtifactAudit

/-- An address that is not accepted is a malformed URL. -/
theorem Url.normalize_eq_error {raw : String} {failure : Failure}
    (rejected : Url.normalize raw = .error failure) :
    ∃ message, failure = .malformedUrl message := by
  unfold Url.normalize at rejected
  split at rejected
  · cases rejected
    exact ⟨_, rfl⟩
  · split at rejected
    · cases rejected
      exact ⟨_, rfl⟩
    · cases rejected

/-- A report is a success if all its outcomes are. -/
theorem Scenario.Report.succeeded_iff {report : Scenario.Report} :
    report.succeeded = true ↔ ∀ outcome ∈ report.outcomes, outcome.succeeded = true := by
  simp [Scenario.Report.succeeded, Scenario.Report.failures, Outcome.failures]

namespace Scenario.Verifier

open Platform Platform.Client Cluster

/-! ## The conditions -/

/-- The first request of a check is for the artifact, and it is answered with
status 200 and the record of an artifact. -/
def Shown (verifier : Verifier) (artifactId : String) (acts : List Act) : Prop :=
  ∃ request answer artifact rest, acts = .request request answer :: rest ∧
    verifier.AsksDetail artifactId request ∧ Reports Artifact.read answer artifact

/-- The second request is for the download view, and it is answered with status 200
and the record of an artifact. -/
def Viewed (verifier : Verifier) (artifactId : String) (acts : List Act) (artifact : Artifact) :
    Prop :=
  ∃ first request answer rest, acts = first :: .request request answer :: rest ∧
    verifier.AsksView artifactId request ∧ Reports Artifact.read answer artifact

/-- The artifact and its download view are shown, and the address in the view is
accepted. -/
def Addressed (verifier : Verifier) (artifactId : String) (acts : List Act) (url : String) : Prop :=
  verifier.Shown artifactId acts ∧ ∃ artifact, verifier.Viewed artifactId acts artifact ∧
    Url.normalize artifact.downloadUrl = .ok url

/-- After the two requests the download of the address is run in the pod, it runs
to its end, and this is its output. -/
def Downloaded (verifier : Verifier) (pod : Pod) (acts : List Act) (url output : String) : Prop :=
  ∃ first second name finished,
    acts = [first, second, .command (verifier.downloadIn pod name url) (.finished finished)] ∧
      pod.name = .string name ∧ RanToEnd finished.captured ∧ finished.captured.output = output

/-- All conditions hold. -/
def Passes (verifier : Verifier) (pod : Pod) (artifactId : String) (acts : List Act) : Prop :=
  ∃ url output, verifier.Addressed artifactId acts url ∧
    verifier.Downloaded pod acts url output ∧ ¬ Refuses output

/-- The message about the first condition that does not hold. -/
inductive Blames (verifier : Verifier) (pod : Pod) (artifactId : String) (acts : List Act) :
    String → Prop where
  /-- The artifact is not shown. -/
  | detail {request : Request} {answer : Answer} {cause : RequestFailure} :
      ¬ verifier.Shown artifactId acts →
        acts = [.request request answer] → verifier.AsksDetail artifactId request →
          Fails "ArtifactDetail" Artifact.read .get (artifactPath artifactId) request.location
            answer cause →
            Blames verifier pod artifactId acts s!"{cause.kind.label}: {cause.message}"
  /-- The artifact is shown, but not its download view. -/
  | view {first : Act} {request : Request} {answer : Answer} {cause : RequestFailure} :
      verifier.Shown artifactId acts → (∀ artifact, ¬ verifier.Viewed artifactId acts artifact) →
        acts = [first, .request request answer] → verifier.AsksView artifactId request →
          Fails "ArtifactDetail" Artifact.read .get (artifactPath artifactId) request.location
            answer cause →
            Blames verifier pod artifactId acts s!"{cause.kind.label}: {cause.message}"
  /-- Both are shown, but the address is not accepted. -/
  | address {artifact : Artifact} {message : String} :
      verifier.Shown artifactId acts → verifier.Viewed artifactId acts artifact →
        Url.normalize artifact.downloadUrl = .error (.malformedUrl message) →
          Blames verifier pod artifactId acts s!"MalformedURL: {message}"
  /-- The address is accepted, but its download does not run to its end. -/
  | execution {url name : String} {first second : Act} {answer : CommandAnswer}
      {failure : ExecFailure} :
      verifier.Addressed artifactId acts url →
        (∀ output, ¬ verifier.Downloaded pod acts url output) →
          acts = [first, second, .command (verifier.downloadIn pod name url) answer] →
            pod.name = .string name →
              Executes verifier.config.kubectl pod.deployment name answer
                (.error (.failure (.exec failure))) →
                Blames verifier pod artifactId acts s!"{failure.kind.label}: {failure.message}"
  /-- The download runs to its end, but its output is a refusal. -/
  | refusal {url output : String} :
      verifier.Addressed artifactId acts url → verifier.Downloaded pod acts url output →
        Refuses output →
          Blames verifier pod artifactId acts
            s!"Access denied downloading artifact {artifactId}: {output}"

/-- What an outcome tells about the check that was seen. -/
structure Judges (verifier : Verifier) (pod : Pod) (artifactId : String) (acts : List Act)
    (outcome : Outcome) : Prop where
  /-- The outcome is that of the artifact. -/
  identified : outcome.artifactId = artifactId
  /-- It is a success if and only if all conditions hold. -/
  succeeded : outcome.succeeded = true ↔ verifier.Passes pod artifactId acts
  /-- Only a success has no message. -/
  silent : outcome.message = none ↔ outcome.succeeded = true
  /-- It has the address if and only if the address was accepted. -/
  address : ∀ url, outcome.downloadUrl = some url ↔ verifier.Addressed artifactId acts url
  /-- The message is about the first condition that does not hold. -/
  message : ∀ message, outcome.message = some message →
    verifier.Blames pod artifactId acts message

/-! ## What is seen of a check -/

section

variable {verifier : Verifier} {pod : Pod} {artifactId url : String} {acts : List Act}

theorem shown_iff {request : Request} {answer : Answer} {rest : List Act} :
    verifier.Shown artifactId (.request request answer :: rest) ↔
      verifier.AsksDetail artifactId request ∧
        ∃ artifact, Reports Artifact.read answer artifact := by
  constructor
  · rintro ⟨_, _, artifact, _, same, asks, reports⟩
    cases same
    exact ⟨asks, artifact, reports⟩
  · rintro ⟨asks, artifact, reports⟩
    exact ⟨request, answer, artifact, rest, rfl, asks, reports⟩

theorem viewed_iff {first : Act} {request : Request} {answer : Answer} {rest : List Act}
    {artifact : Artifact} :
    verifier.Viewed artifactId (first :: .request request answer :: rest) artifact ↔
      verifier.AsksView artifactId request ∧ Reports Artifact.read answer artifact := by
  constructor
  · rintro ⟨_, _, _, _, same, asks, reports⟩
    cases same
    exact ⟨asks, reports⟩
  · rintro ⟨asks, reports⟩
    exact ⟨first, request, answer, rest, rfl, asks, reports⟩

/-- A resolved address is the only one that is accepted. -/
theorem Resolves.addressed_iff (resolves : verifier.Resolves artifactId acts url)
    (after : List Act) (other : String) :
    verifier.Addressed artifactId (acts ++ after) other ↔ other = url := by
  cases resolves with
  | intro shows answers reports normal =>
    constructor
    · rintro ⟨_, artifact, viewed, accepted⟩
      obtain rfl := (viewed_iff.mp viewed).2.unique reports
      rw [normal] at accepted
      cases accepted
      rfl
    · rintro rfl
      exact ⟨shown_iff.mpr ⟨shows.asks, _, shows.reports⟩, _,
        viewed_iff.mpr ⟨answers.asks, reports⟩, normal⟩

theorem Resolves.addressed (resolves : verifier.Resolves artifactId acts url)
    (after : List Act) : verifier.Addressed artifactId (acts ++ after) url :=
  (resolves.addressed_iff after url).mpr rfl

/-- With a resolved address only its download is left to pass. -/
theorem Resolves.passes_iff (resolves : verifier.Resolves artifactId acts url)
    (after : List Act) :
    verifier.Passes pod artifactId (acts ++ after) ↔
      ∃ output, verifier.Downloaded pod (acts ++ after) url output ∧ ¬ Refuses output := by
  constructor
  · rintro ⟨other, output, addressed, downloaded, granted⟩
    obtain rfl := (resolves.addressed_iff after other).mp addressed
    exact ⟨output, downloaded, granted⟩
  · rintro ⟨output, downloaded, granted⟩
    exact ⟨url, output, resolves.addressed after, downloaded, granted⟩

/-- Nothing but the last act tells what was downloaded. -/
theorem Resolves.downloaded_iff {name : String} (resolves : verifier.Resolves artifactId acts url)
    (named : pod.name = .string name) (answer : CommandAnswer) (output : String) :
    verifier.Downloaded pod (acts ++ [.command (verifier.downloadIn pod name url) answer]) url
        output ↔
      ∃ finished, answer = .finished finished ∧ RanToEnd finished.captured ∧
        finished.captured.output = output := by
  cases resolves with
  | intro =>
    constructor
    · rintro ⟨_, _, _, finished, same, _, completed, shown⟩
      simp only [List.cons_append, List.nil_append, List.cons.injEq, Act.command.injEq] at same
      obtain ⟨_, _, ⟨_, rfl⟩, _⟩ := same
      exact ⟨finished, rfl, completed, shown⟩
    · rintro ⟨finished, rfl, completed, shown⟩
      exact ⟨_, _, name, finished, rfl, named, completed, shown⟩

/-- A download that ended with a failure did not run to its end. -/
theorem not_completed_of_executes {config : KubectlConfig} {deployment name : String}
    {answer : CommandAnswer} {failure : Failure}
    (executes : Executes config deployment name answer (.error (.failure failure))) :
    ¬ ∃ finished, answer = .finished finished ∧ RanToEnd finished.captured := by
  rintro ⟨finished, rfl, completed⟩
  cases executes with
  | broken unfinished => exact unfinished completed
  | unestablished unfinished => exact unfinished completed

/-- The failure of a download is that of a command in a pod. -/
theorem exec_of_executes {config : KubectlConfig} {deployment name : String}
    {answer : CommandAnswer} {failure : Failure}
    (executes : Executes config deployment name answer (.error (.failure failure))) :
    ∃ cause, failure = .exec cause := by
  cases executes <;> exact ⟨_, rfl⟩

/-! ## The outcome of a check -/

/-- Without a resolved address the check does not pass. -/
theorem Judges.of_unresolved {failure : Failure}
    (unaddressed : ∀ url, ¬ verifier.Addressed artifactId acts url)
    (blames : verifier.Blames pod artifactId acts s!"{failure.kind.label}: {failure.message}") :
    verifier.Judges pod artifactId acts (failedOutcome artifactId none failure) where
  identified := rfl
  succeeded := by
    constructor
    · intro impossible
      cases impossible
    · rintro ⟨url, _, addressed, _⟩
      exact absurd addressed (unaddressed url)
  silent := by simp [failedOutcome]
  address url := by simp [failedOutcome, unaddressed url]
  message message same := by
    cases same
    exact blames

theorem Unresolved.judges {failure : Failure}
    (unresolved : verifier.Unresolved artifactId acts failure) :
    verifier.Judges pod artifactId acts (failedOutcome artifactId none failure) := by
  cases unresolved with
  | detail asks fails =>
    rename_i request answer cause
    have unshown : ¬ verifier.Shown artifactId [.request request answer] := by
      intro shown
      obtain ⟨_, artifact, reports⟩ := shown_iff.mp shown
      exact fails.not_reports artifact reports
    exact .of_unresolved (fun _ addressed => unshown addressed.1) (.detail unshown rfl asks fails)
  | view shows answers fails =>
    rename_i detail view first second _ cause
    have unviewed : ∀ artifact, ¬ verifier.Viewed artifactId
        [.request detail first, .request view second] artifact :=
      fun artifact viewed => fails.not_reports artifact (viewed_iff.mp viewed).2
    refine .of_unresolved ?_
      (.view (shown_iff.mpr ⟨shows.asks, _, shows.reports⟩) unviewed rfl answers.asks fails)
    rintro _ ⟨_, artifact, viewed, _⟩
    exact unviewed artifact viewed
  | address shows answers reports rejected =>
    refine .of_unresolved ?_ ?_
    · rintro _ ⟨_, artifact, viewed, accepted⟩
      obtain rfl := (viewed_iff.mp viewed).2.unique reports
      rw [rejected] at accepted
      cases accepted
    · obtain ⟨message, rfl⟩ := Url.normalize_eq_error rejected
      exact .address (shown_iff.mpr ⟨shows.asks, _, shows.reports⟩)
        (viewed_iff.mpr ⟨answers.asks, reports⟩) rejected

/-- With a resolved address the download decides. -/
theorem Judges.of_resolves {outcome : Outcome} (resolves : verifier.Resolves artifactId acts url)
    (after : List Act) (identified : outcome.artifactId = artifactId)
    (silent : outcome.message = none ↔ outcome.succeeded = true)
    (address : outcome.downloadUrl = some url)
    (decided : outcome.succeeded = true ↔
      ∃ output, verifier.Downloaded pod (acts ++ after) url output ∧ ¬ Refuses output)
    (blames : ∀ message, outcome.message = some message →
      verifier.Blames pod artifactId (acts ++ after) message) :
    verifier.Judges pod artifactId (acts ++ after) outcome where
  identified := identified
  succeeded := decided.trans (resolves.passes_iff after).symm
  silent := silent
  address other := by
    rw [address, resolves.addressed_iff after, Option.some.injEq, eq_comm]
  message := blames

/-- The outcome of a check with an outcome tells which conditions hold. -/
theorem Check.judges {outcome : Outcome}
    (check : verifier.Check pod artifactId acts (.ok outcome)) :
    verifier.Judges pod artifactId acts outcome := by
  cases check with
  | unresolved unresolved => exact unresolved.judges
  | unexecuted resolves named executes =>
    rename_i before url name answer failure
    have undownloaded : ∀ output, ¬ verifier.Downloaded pod
        (before ++ [.command (verifier.downloadIn pod name url) answer]) url output := by
      intro output downloaded
      obtain ⟨finished, same, completed, _⟩ :=
        (resolves.downloaded_iff named answer output).mp downloaded
      exact not_completed_of_executes executes ⟨finished, same, completed⟩
    refine .of_resolves resolves _ rfl (by simp [failedOutcome]) rfl ?_ ?_
    · simp [failedOutcome, undownloaded]
    · intro message same
      cases same
      obtain ⟨cause, rfl⟩ := exec_of_executes executes
      have accepted := resolves.addressed [.command (verifier.downloadIn pod name url) answer]
      cases resolves with
      | intro => exact .execution accepted undownloaded rfl named executes
  | refused resolves named completed refuses =>
    rename_i finished
    have downloaded := resolves.downloaded_iff named (.finished finished)
    refine .of_resolves resolves _ rfl (by simp [refusedOutcome]) rfl ?_ ?_
    · refine ⟨nofun, fun ⟨output, found, granted⟩ => ?_⟩
      obtain ⟨_, same, _, rfl⟩ := (downloaded output).mp found
      cases same
      exact absurd refuses granted
    · intro message same
      cases same
      exact .refusal (resolves.addressed _) ((downloaded _).mpr ⟨finished, rfl, completed, rfl⟩)
        refuses
  | passed resolves named completed granted =>
    rename_i finished
    have downloaded := resolves.downloaded_iff named (.finished finished)
    refine .of_resolves resolves _ rfl (by simp [passedOutcome]) rfl ?_ nofun
    exact ⟨fun _ => ⟨_, (downloaded _).mpr ⟨finished, rfl, completed, rfl⟩, granted⟩, fun _ => rfl⟩

end

/-! ## The verdict -/

/-- What was seen before the checks: the listing of the artifacts, and if there are
any the lookup of the pod of the report. -/
inductive Prepared (verifier : Verifier) (report : Report) : List Act → List Artifact → Prop where
  /-- The listing is empty. -/
  | vacuous (before : List Act) {request : Request} {answer : Answer} :
      verifier.AsksArtifacts request →
        Reports ArtifactListing.read answer { artifacts := [] } →
          Prepared verifier report
            (before ++ [.request request answer, .announcement .artifactsListed]) []
  /-- The listing is not empty, and the pod is found. -/
  | located (before : List Act) {request : Request} {answer : Answer} {artifacts : List Artifact}
      {lookup : CommandAnswer} {pod : Pod} :
      verifier.AsksArtifacts request → Reports ArtifactListing.read answer { artifacts } →
        artifacts ≠ [] → Locates verifier.config.deployment lookup (.ok pod) →
          report.pod = some pod →
            Prepared verifier report
              (before ++ [.request request answer, .announcement .artifactsListed,
                .command verifier.podLookup lookup])
              artifacts

section

variable {verifier : Verifier} {acts : List Act} {report : Report}

/-- A scenario that ends with a report has inspected the listed artifacts. -/
theorem inspected_of_stages {checks : Pod → List String → Course (List Outcome)}
    (stages : verifier.Stages checks acts (.ok report)) :
    ∃ request answer artifacts runId after,
      [.request request answer, .announcement .artifactsListed] ++ after ++
          [.announcement .verdict] <:+ acts ∧
        verifier.AsksArtifacts request ∧ Reports ArtifactListing.read answer { artifacts } ∧
        verifier.Inspecting checks runId artifacts after (.ok report) := by
  cases stages with
  | goes submitted rest =>
    cases rest with
    | goes created rest =>
      cases rest with
      | goes awaited rest =>
        cases rest with
        | goes listed inspected =>
          cases listed with
          | reached listed =>
            cases inspected with
            | reached inspected =>
              cases listed with
              | listed asks reports =>
                refine ⟨_, _, _, _, _, ?_, asks, reports, inspected⟩
                iterate 3 refine List.suffix_append_of_suffix ?_
                rw [List.append_assoc]
                exact List.suffix_rfl

/-- A scenario that ends with a report has checked the listed artifacts in the pod
of the report. -/
theorem prepared_of_stages (stages : verifier.Stages verifier.Checking acts (.ok report)) :
    ∃ setup artifacts records,
      acts = setup ++ CheckRecord.trail records ++ [.announcement .verdict] ∧
        verifier.Prepared report setup artifacts ∧
        CheckRecord.artifacts records = artifacts.map (·.artifactId) ∧
        records.map (·.result) = report.outcomes.map .ok ∧
        ∀ record ∈ records, ∃ pod, report.pod = some pod ∧
          verifier.Check pod record.artifactId record.acts record.result := by
  obtain ⟨request, answer, artifacts, runId, after, ⟨before, rfl⟩, asks, reports, inspected⟩ :=
    inspected_of_stages stages
  unfold Inspecting at inspected
  split at inspected
  · rename_i empty
    obtain rfl := List.isEmpty_iff.mp empty
    obtain ⟨rfl, ended⟩ := inspected
    unfold vacuous at ended
    split at ended
    · cases ended
    · cases ended
      exact ⟨_, [], [], by simp, .vacuous before asks reports, rfl, rfl, by simp⟩
  · rename_i listing
    cases inspected with
    | goes located rest =>
      cases located with
      | asked _ locates =>
        cases rest with
        | goes checked ended =>
          obtain ⟨records, recorded⟩ := checked
          obtain ⟨rfl, same⟩ := ended
          cases same
          obtain rfl := recorded.trail
          exact ⟨_, artifacts, records, by simp,
            .located before asks reports (by simpa using listing) locates rfl,
            recorded.complete _ rfl, CheckRecord.outcomes_eq_ok_iff.mp recorded.ended.symm,
            fun record member => ⟨_, rfl, recorded.checked record member⟩⟩

/-- What a report tells about the scenario that ended with it. -/
structure Certifies (verifier : Verifier) (acts : List Act) (report : Report) (setup : List Act)
    (artifacts : List Artifact) (checks : List CheckRecord) : Prop where
  /-- The checks are seen after the setup, and nothing but the verdict after them. -/
  seen : acts = setup ++ CheckRecord.trail checks ++ [.announcement .verdict]
  /-- The artifacts are those of the listing. -/
  prepared : verifier.Prepared report setup artifacts
  /-- Each of them is checked, in order. -/
  checked : CheckRecord.artifacts checks = artifacts.map (·.artifactId)
  /-- The outcomes are those of the checks. -/
  settled : checks.map (·.result) = report.outcomes.map .ok
  /-- There is one for each artifact, in order. -/
  listed : report.outcomes.map (·.artifactId) = artifacts.map (·.artifactId)
  /-- Each outcome tells which conditions hold for its artifact. -/
  judged : ∀ check ∈ checks, ∃ pod outcome, report.pod = some pod ∧ check.result = .ok outcome ∧
    verifier.Judges pod check.artifactId check.acts outcome
  /-- The report is a success if and only if every artifact passes. -/
  succeeded : report.succeeded = true ↔ ∀ check ∈ checks, ∃ pod, report.pod = some pod ∧
    verifier.Passes pod check.artifactId check.acts

/-- Checks with outcomes are judged by them. -/
theorem judged_of_checked {checks : List CheckRecord}
    (settled : checks.map (·.result) = report.outcomes.map .ok)
    (checked : ∀ check ∈ checks, ∃ pod, report.pod = some pod ∧
      verifier.Check pod check.artifactId check.acts check.result) :
    ∀ check ∈ checks, ∃ pod outcome, report.pod = some pod ∧ check.result = .ok outcome ∧
      verifier.Judges pod check.artifactId check.acts outcome := by
  intro check member
  obtain ⟨pod, found, course⟩ := checked check member
  obtain ⟨outcome, ended⟩ := CheckRecord.settled_of_outcomes settled member
  rw [ended] at course
  exact ⟨pod, outcome, found, ended, course.judges⟩

/-- A report on judged checks is a success if and only if all of them pass. -/
theorem succeeded_iff_of_judged {checks : List CheckRecord}
    (settled : checks.map (·.result) = report.outcomes.map .ok)
    (judged : ∀ check ∈ checks, ∃ pod outcome, report.pod = some pod ∧
      check.result = .ok outcome ∧ verifier.Judges pod check.artifactId check.acts outcome) :
    report.succeeded = true ↔ ∀ check ∈ checks, ∃ pod, report.pod = some pod ∧
      verifier.Passes pod check.artifactId check.acts := by
  have source := CheckRecord.mem_outcomes_iff settled
  rw [Report.succeeded_iff]
  constructor
  · intro succeeded check member
    obtain ⟨pod, outcome, found, ended, judges⟩ := judged check member
    have passed := succeeded outcome ((source outcome).mpr ⟨check, member, ended⟩)
    exact ⟨pod, found, judges.succeeded.mp passed⟩
  · intro passing outcome member
    obtain ⟨check, made, ended⟩ := (source outcome).mp member
    obtain ⟨pod, _, found, same, judges⟩ := judged check made
    obtain ⟨_, again, passes⟩ := passing check made
    rw [found] at again
    rw [ended] at same
    cases again
    cases same
    exact judges.succeeded.mpr passes

end

/-- A report has one outcome for each listed artifact, in the order of the listing,
and each outcome tells which conditions hold for its artifact. The report is a
success if and only if all conditions hold for every artifact. -/
theorem run_verdict (verifier : Verifier) {σ : Type} (world : World σ) (start : σ) (report : Report)
    (returned : ((verifier.run .idle).play world start).1 = .ok report) :
    ∃ setup artifacts checks,
      verifier.Certifies (actsOf ((verifier.run .idle).events world start)) report setup artifacts
        checks := by
  have stages := verifier.stages_play .idle world start
  rw [returned] at stages
  obtain ⟨setup, artifacts, checks, seen, prepared, checked, settled, courses⟩ :=
    prepared_of_stages stages
  have judged := judged_of_checked settled courses
  refine ⟨setup, artifacts, checks, seen, prepared, checked, settled, ?_, judged,
    succeeded_iff_of_judged settled judged⟩
  rw [← checked]
  refine CheckRecord.map_artifactId_of_outcomes settled fun check member outcome ended => ?_
  obtain ⟨_, _, _, same, judges⟩ := judged check member
  rw [ended] at same
  cases same
  exact judges.identified

/-- Whether a scenario ended with the success of one artifact. -/
def endsWithOne : Except Halt Report → Bool
  | .ok report => report.succeeded && report.outcomes.map (·.artifactId) == ["a"]
  | .error _ => false

theorem run_verdict_of_one :
    ∃ report setup artifacts checks,
      ((sample.run .idle).play (sampleWorld samplePods) sampleAnswers).1 = .ok report ∧
        report.succeeded = true ∧ report.outcomes.map (·.artifactId) = ["a"] ∧
        sample.Certifies (actsOf ((sample.run .idle).events (sampleWorld samplePods) sampleAnswers))
          report setup artifacts checks := by
  have ends : endsWithOne ((sample.run .idle).play (sampleWorld samplePods) sampleAnswers).1 =
      true := by
    decide +kernel
  generalize ended : ((sample.run .idle).play (sampleWorld samplePods) sampleAnswers).1 = result
    at ends
  match result with
  | .ok report =>
    obtain ⟨succeeded, one⟩ := Bool.and_eq_true_iff.mp ends
    obtain ⟨setup, artifacts, checks, certifies⟩ :=
      run_verdict sample (sampleWorld samplePods) sampleAnswers report ended
    exact ⟨report, setup, artifacts, checks, rfl, succeeded, beq_iff_eq.mp one, certifies⟩
  | .error _ => cases ends

end Scenario.Verifier

end ArtifactAudit
