import ArtifactAudit.Proofs.Scenario.Check

/-!
# The checks of several artifacts

The checks of some artifacts leave a record each. One after the other, they end
with the first fault; independently of one another, all of them are made. In both
cases the outcomes are those of the records, in order, or the first fault is what
the checks end with (`verifyArtifacts_follows`).
-/

set_option autoImplicit false

namespace ArtifactAudit.Scenario

/-- What was seen of the check of an artifact, and what it ended with. -/
structure CheckRecord where
  artifactId : String
  acts : List Act
  result : Except Halt Outcome

/-- What was seen of some checks, one after the other. -/
def CheckRecord.trail (records : List CheckRecord) : List Act :=
  records.flatMap (·.acts)

/-- The outcomes of some checks, or the first reason that stopped one. -/
def CheckRecord.outcomes (records : List CheckRecord) : Except Halt (List Outcome) :=
  records.mapM (·.result)

def CheckRecord.artifacts (records : List CheckRecord) : List String :=
  records.map (·.artifactId)

namespace CheckRecord

@[simp] theorem trail_nil : trail [] = [] := rfl

@[simp] theorem trail_cons (record : CheckRecord) (records : List CheckRecord) :
    trail (record :: records) = record.acts ++ trail records := rfl

@[simp] theorem artifacts_nil : artifacts [] = [] := rfl

@[simp] theorem artifacts_cons (record : CheckRecord) (records : List CheckRecord) :
    artifacts (record :: records) = record.artifactId :: artifacts records := rfl

@[simp] theorem outcomes_nil : outcomes [] = .ok [] := rfl

theorem outcomes_cons (record : CheckRecord) (records : List CheckRecord) :
    outcomes (record :: records) =
      record.result.bind fun outcome => (outcomes records).map (outcome :: ·) := by
  unfold outcomes
  rw [List.mapM_cons]
  rfl

/-- The outcomes are there when every check has one. -/
theorem outcomes_eq_ok_iff {records : List CheckRecord} {outcomes : List Outcome} :
    CheckRecord.outcomes records = .ok outcomes ↔
      records.map (·.result) = outcomes.map .ok := by
  induction records generalizing outcomes with
  | nil => cases outcomes <;> simp
  | cons record records ih =>
    rw [outcomes_cons]
    cases ended : record.result with
    | error reason => cases outcomes <;> simp [Except.bind, ended]
    | ok outcome =>
      cases later : CheckRecord.outcomes records with
      | error reason =>
        cases outcomes with
        | nil => simp [Except.bind, Except.map]
        | cons first rest =>
          have none : ¬ records.map (·.result) = rest.map .ok := fun same => by
            rw [ih.mpr same] at later
            cases later
          simp [Except.bind, Except.map, none]
      | ok found =>
        cases outcomes with
        | nil => simp [Except.bind, Except.map]
        | cons first rest =>
          simp only [Except.bind, Except.map, List.map_cons, ended, List.cons.injEq,
            Except.ok.injEq, ← ih, later]

/-- What stops the checks has stopped one of them, and those before it have outcomes. -/
theorem outcomes_eq_error {records : List CheckRecord} {reason : Halt}
    (stopped : CheckRecord.outcomes records = .error reason) :
    ∃ before record after, records = before ++ record :: after ∧
      (∀ earlier ∈ before, ∃ outcome, earlier.result = .ok outcome) ∧
      record.result = .error reason := by
  induction records with
  | nil => cases stopped
  | cons record records ih =>
    rw [outcomes_cons] at stopped
    cases ended : record.result with
    | error first =>
      rw [ended] at stopped
      cases stopped
      exact ⟨[], record, records, rfl, nofun, ended⟩
    | ok outcome =>
      rw [ended] at stopped
      cases later : CheckRecord.outcomes records with
      | error last =>
        rw [later] at stopped
        cases stopped
        obtain ⟨before, found, after, rfl, settled, ending⟩ := ih later
        refine ⟨record :: before, found, after, rfl, fun earlier member => ?_, ending⟩
        rcases List.mem_cons.mp member with rfl | member
        · exact ⟨outcome, ended⟩
        · exact settled earlier member
      | ok found =>
        rw [later] at stopped
        cases stopped

/-- Checks that all have outcomes are not stopped. -/
theorem outcomes_of_settled {records : List CheckRecord}
    (settled : ∀ record ∈ records, ∃ outcome, record.result = .ok outcome) :
    ∃ outcomes, CheckRecord.outcomes records = .ok outcomes := by
  cases ended : CheckRecord.outcomes records with
  | ok outcomes => exact ⟨outcomes, rfl⟩
  | error reason =>
    obtain ⟨before, record, after, rfl, _, stopped⟩ := outcomes_eq_error ended
    obtain ⟨outcome, ended⟩ := settled record (by simp)
    rw [stopped] at ended
    cases ended

section

variable {records : List CheckRecord} {outcomes : List Outcome}

/-- Every outcome is that of a check. -/
theorem mem_outcomes_iff (ended : records.map (·.result) = outcomes.map .ok) (outcome : Outcome) :
    outcome ∈ outcomes ↔ ∃ record ∈ records, record.result = .ok outcome := by
  have gave : outcome ∈ outcomes ↔ (.ok outcome : Except Halt Outcome) ∈ outcomes.map .ok := by
    simp
  rw [gave, ← ended, List.mem_map]

/-- Every check has an outcome. -/
theorem settled_of_outcomes (ended : records.map (·.result) = outcomes.map .ok)
    {record : CheckRecord} (member : record ∈ records) :
    ∃ outcome, record.result = .ok outcome := by
  have settled : record.result ∈ outcomes.map .ok := by
    rw [← ended]
    exact List.mem_map_of_mem member
  obtain ⟨outcome, _, same⟩ := List.mem_map.mp settled
  exact ⟨outcome, same.symm⟩

/-- Outcomes for the artifacts of the checks stand in their order. -/
theorem map_artifactId_of_outcomes (ended : records.map (·.result) = outcomes.map .ok)
    (identified : ∀ record ∈ records, ∀ outcome, record.result = .ok outcome →
      outcome.artifactId = record.artifactId) :
    outcomes.map (·.artifactId) = artifacts records := by
  induction records generalizing outcomes with
  | nil =>
    cases outcomes with
    | nil => rfl
    | cons => cases ended
  | cons record records ih =>
    cases outcomes with
    | nil => cases ended
    | cons outcome rest =>
      rw [List.map_cons, List.map_cons, List.cons.injEq] at ended
      rw [List.map_cons, artifacts_cons, identified record List.mem_cons_self outcome ended.1,
        ih ended.2 fun other member => identified other (List.mem_cons_of_mem record member)]

end

end CheckRecord

namespace Verifier

open Platform Cluster

/-- The course of checks: there is a record of each check that was made, for the
artifacts from the first one on, and the checks end with their outcomes or with
the first fault. Checks with outcomes have been made for every artifact. -/
structure Recorded (verifier : Verifier) (pod : Pod) (artifacts : List String)
    (records : List CheckRecord) (acts : List Act) (result : Except Halt (List Outcome)) :
    Prop where
  /-- Nothing else is seen. -/
  trail : acts = CheckRecord.trail records
  /-- Every record is that of a check. -/
  checked : ∀ record ∈ records, verifier.Check pod record.artifactId record.acts record.result
  /-- The checks are made in the order of the artifacts. -/
  inOrder : CheckRecord.artifacts records <+: artifacts
  ended : result = CheckRecord.outcomes records
  /-- Without a fault all checks are made. -/
  complete : ∀ outcomes, result = .ok outcomes → CheckRecord.artifacts records = artifacts

/-- The course of checks, whatever their records. -/
abbrev Checking (verifier : Verifier) (pod : Pod) (artifacts : List String) :
    Course (List Outcome) :=
  fun acts result => ∃ records, verifier.Recorded pod artifacts records acts result

section

variable {verifier : Verifier} {pod : Pod} {artifactId : String} {rest : List String}
  {before after : List Act} {records : List CheckRecord} {outcome : Outcome} {reason : Halt}
  {result : Except Halt (List Outcome)}

/-- A check with an outcome stands in front of the others. -/
theorem Recorded.cons (check : verifier.Check pod artifactId before (.ok outcome))
    (recorded : verifier.Recorded pod rest records after result) :
    verifier.Recorded pod (artifactId :: rest) (⟨artifactId, before, .ok outcome⟩ :: records)
      (before ++ after) (result.map (outcome :: ·)) where
  trail := by rw [recorded.trail, CheckRecord.trail_cons]
  checked record member := by
    rcases List.mem_cons.mp member with rfl | member
    · exact check
    · exact recorded.checked record member
  inOrder := (List.prefix_cons_inj artifactId).mpr recorded.inOrder
  ended := by
    rw [recorded.ended, CheckRecord.outcomes_cons]
    rfl
  complete outcomes gave := by
    cases later : result with
    | error reason =>
      rw [later] at gave
      cases gave
    | ok found => rw [CheckRecord.artifacts_cons, recorded.complete found later]

/-- A check that was stopped is the last one. -/
theorem Recorded.stopped (check : verifier.Check pod artifactId before (.error reason)) :
    verifier.Recorded pod (artifactId :: rest) [⟨artifactId, before, .error reason⟩] before
      (.error reason) where
  trail := by simp
  checked record member := by
    obtain rfl := List.mem_singleton.mp member
    exact check
  inOrder := by simp
  ended := rfl
  complete outcomes gave := by cases gave

end

theorem verifyEach_follows (verifier : Verifier) (pod : Pod) (artifacts : List String) :
    (verifier.verifyEach pod artifacts).Follows (verifier.Checking pod artifacts) := by
  induction artifacts with
  | nil => exact Script.Follows.done ⟨[], rfl, by simp, List.prefix_rfl, rfl, fun _ _ => rfl⟩
  | cons artifactId rest ih =>
    have checking : (verifier.verifyEach pod (artifactId :: rest)).Follows _ :=
      Script.Follows.bind (verifier.verifyArtifact_follows pod artifactId) fun outcome =>
        Script.Follows.bind ih fun outcomes => Script.Follows.returns (outcome :: outcomes)
    refine checking.mono fun acts result follows => ?_
    cases follows with
    | stops stopped => exact ⟨_, .stopped stopped⟩
    | goes check others =>
      cases others with
      | stops stopped =>
        obtain ⟨records, recorded⟩ := stopped
        exact ⟨_, recorded.cons check⟩
      | goes gave ended =>
        obtain ⟨records, recorded⟩ := gave
        obtain ⟨rfl, rfl⟩ := ended
        rw [List.append_nil]
        exact ⟨_, recorded.cons check⟩

/-- All checks are made. -/
theorem settleEach_follows (verifier : Verifier) (pod : Pod) (artifacts : List String) :
    (verifier.settleEach pod artifacts).Follows fun acts result => ∃ records,
      acts = CheckRecord.trail records ∧
        (∀ record ∈ records, verifier.Check pod record.artifactId record.acts record.result) ∧
        CheckRecord.artifacts records = artifacts ∧
        result = .ok (records.map (·.result)) := by
  induction artifacts with
  | nil => exact Script.Follows.done ⟨[], rfl, by simp, rfl, rfl⟩
  | cons artifactId rest ih =>
    have checking : (verifier.settleEach pod (artifactId :: rest)).Follows _ :=
      Script.Follows.bind (verifier.verifyArtifact_follows pod artifactId).settle fun outcome =>
        Script.Follows.bind ih fun outcomes =>
          Script.Follows.returns (outcome :: outcomes)
    refine checking.mono fun acts result follows => ?_
    obtain ⟨before, _, settled, rfl, ⟨_, same, check⟩, others⟩ := follows.of_giving (by simp)
    cases same
    obtain ⟨_, _, _, rfl, ⟨records, rfl, checked, rfl, same⟩, rfl, rfl⟩ :=
      others.of_giving (by simp)
    cases same
    rw [List.append_nil]
    refine ⟨⟨artifactId, before, settled⟩ :: records, rfl, fun record member => ?_, rfl, rfl⟩
    rcases List.mem_cons.mp member with rfl | member
    · exact check
    · exact checked record member

theorem verifyArtifacts_follows (verifier : Verifier) (pod : Pod) (artifacts : List String) :
    (verifier.verifyArtifacts pod artifacts).Follows (verifier.Checking pod artifacts) := by
  unfold verifyArtifacts
  split
  · refine (Script.Follows.bind (verifier.settleEach_follows pod artifacts) fun settled =>
      Script.Follows.ofSettled (settled.mapM id)).mono fun acts result follows => ?_
    obtain ⟨_, _, _, rfl, ⟨records, rfl, checked, rfl, same⟩, rfl, rfl⟩ :=
      follows.of_giving (by simp)
    cases same
    rw [List.append_nil]
    refine ⟨records, rfl, checked, List.prefix_rfl, ?_, fun _ _ => rfl⟩
    unfold CheckRecord.outcomes
    rw [List.mapM_map]
    rfl
  · exact verifier.verifyEach_follows pod artifacts

end Verifier

end ArtifactAudit.Scenario
