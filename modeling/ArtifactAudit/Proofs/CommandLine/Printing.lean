import Mathlib.Data.List.Forall2
import ArtifactAudit.CommandLine.Program
import ArtifactAudit.Proofs.Markup.Escape
import ArtifactAudit.Proofs.Scenario.Stages

/-!
# Tags in what is printed

What is printed is markup, and it holds texts from outside. In the cells of the table and in
the line about a failure they are escaped, so no tag of theirs takes effect
(`Ending.printed_quotes`), whatever stands around them.

The identifier of the run stands in the title as it is. So the tags of the title are those of
the identifier (`run_title_active_iff`), which is whatever the platform answered.
-/

set_option autoImplicit false

namespace ArtifactAudit

open Markup Scenario

/-! ## Cells and failures -/

namespace CommandLine.Ending

/-- The row of an outcome: its identifier and what is said about it are quoted. -/
def QuotedIn (outcome : Outcome) (row : List String) : Prop :=
  ∃ artifact details,
    row = [artifact, if outcome.succeeded then Report.passMark else Report.failMark, details] ∧
      Quotes artifact outcome.artifactId ∧ Quotes details (Report.details outcome)

/-- The tag at the beginning of the line about a failure. -/
def opening : String := "[bold red]"

/-- The tag at its end. -/
def closing : String := "[/bold red]"

/-- The beginning of the line, behind its tag. -/
def abortLead (failure : Failure) : String :=
  "❌ Scenario aborted: " ++ failure.kind.label ++ ": "

theorem isTag_opening : IsTag opening.toList :=
  .intro 'b' "old red".toList (by decide) (by simp)

theorem isTag_closing : IsTag closing.toList :=
  .intro '/' "bold red".toList (by decide) (by simp)

theorem isLead_label (kind : Failure.Kind) : IsLead kind.label.toList := by
  cases kind <;> decide +kernel

theorem isLead_abortLead (failure : Failure) : IsLead (abortLead failure).toList := by
  unfold abortLead
  rw [String.toList_append, String.toList_append]
  exact (IsLead.append (by decide) (isLead_label _)).append (by decide)

theorem abortLine_eq (failure : Failure) :
    abortLine failure =
      opening ++ (abortLead failure ++ (escape failure.message ++ closing)) := by
  have cut : "[bold red]❌ Scenario aborted: " = opening ++ "❌ Scenario aborted: " := by
    decide +kernel
  unfold abortLine abortLead
  rw [cut]
  simp only [toString, String.append_assoc]
  rfl

/-- The active tags between the two of the line are those of the text in it. -/
theorem active_line_iff {lead text before tag after : List Char} (isLead : IsLead lead)
    (inert : IsInert text) :
    Active (opening.toList ++ (lead ++ (text ++ closing.toList))) before tag after ↔
      (before = [] ∧ tag = opening.toList ∧ after = lead ++ (text ++ closing.toList)) ∨
        (before = opening.toList ++ (lead ++ text) ∧ tag = closing.toList ∧ after = [] ∧
          Even (finalBackslashes text)) := by
  rw [active_tag_append_iff isTag_opening]
  simp only [active_append_iff isLead, active_append_tag_iff inert isTag_closing]
  constructor
  · rintro (own | ⟨_, rfl, _, rfl, rfl, rest⟩)
    · exact .inl own
    · exact .inr ⟨rfl, rest⟩
  · rintro (own | ⟨rfl, rest⟩)
    · exact .inl own
    · exact .inr ⟨_, rfl, _, rfl, rfl, rest⟩

/-- What is printed quotes the texts from outside. The table has a row for each outcome, and
no cell but that of the mark has an active tag; and of the tags of the line about a failure
none is active but the two with which the line begins and ends. -/
theorem printed_quotes :
    (∀ report : Report, ∃ rows,
      (reported report).printed =
          [.table report.title ["Artifact", "Result", "Details"] rows, .line report.summary] ∧
        List.Forall₂ QuotedIn report.outcomes rows) ∧
      ∀ failure : Failure, ∃ shown, Quotes shown failure.message ∧
        (aborted failure).printed =
            [.line (opening ++ (abortLead failure ++ (shown ++ closing)))] ∧
          ∀ before tag after,
            Active (opening ++ (abortLead failure ++ (shown ++ closing))).toList before tag after ↔
              (before = [] ∧ tag = opening.toList ∧
                  after = (abortLead failure ++ (shown ++ closing)).toList) ∨
                (before = (opening ++ (abortLead failure ++ shown)).toList ∧
                  tag = closing.toList ∧ after = [] ∧ Even (finalBackslashes shown.toList)) := by
  refine ⟨fun report => ⟨report.outcomes.map Report.row, rfl, ?_⟩, fun failure =>
    ⟨escape failure.message, quotes_escape _, ?_, fun before tag after => ?_⟩⟩
  · rw [List.forall₂_map_right_iff]
    exact List.forall₂_same.mpr fun outcome _ =>
      ⟨_, _, rfl, quotes_escape _, quotes_escape _⟩
  · rw [← abortLine_eq]
    rfl
  · simp only [String.toList_append]
    exact active_line_iff (isLead_abortLead failure) (escape_isInert failure.message)

end CommandLine.Ending

/-! ## The title -/

namespace Scenario

/-- The beginning of a title. -/
def Report.titleLead : String := "Artifacts of run "

theorem Report.title_eq {report : Report} {runId : String}
    (identified : report.runId = some runId) : report.title = Report.titleLead ++ runId := by
  unfold Report.title
  rw [identified]
  rfl

/-- The active tags of a title are those of the identifier in it. -/
theorem Report.title_active_iff {report : Report} {runId : String}
    (identified : report.runId = some runId) {before tag after : List Char} :
    Active report.title.toList before tag after ↔
      ∃ between, before = Report.titleLead.toList ++ between ∧
        Active runId.toList between tag after := by
  rw [Report.title_eq identified, String.toList_append]
  exact active_append_iff (by decide)

/-- A title is inert if and only if the identifier is. -/
theorem Report.title_isInert_iff {report : Report} {runId : String}
    (identified : report.runId = some runId) :
    IsInert report.title.toList ↔ IsInert runId.toList := by
  constructor
  · intro inert before tag after active
    exact inert _ _ _ ((Report.title_active_iff identified).mpr ⟨before, rfl, active⟩)
  · intro inert before tag after active
    obtain ⟨between, _, within⟩ := (Report.title_active_iff identified).mp active
    exact inert _ _ _ within

namespace Verifier

open Platform Platform.Client Cluster

/-- A report has the identifier of the run that was created. -/
theorem identified_of_stages {verifier : Verifier}
    {checks : Pod → List String → Course (List Outcome)} {acts : List Act} {report : Report}
    (stages : verifier.Stages checks acts (.ok report)) :
    ∃ pipelineId request answer run, .request request answer ∈ acts ∧
      verifier.AsksCreation pipelineId request ∧ Reports Run.read answer run ∧
      report.runId = some run.runId := by
  cases stages with
  | goes submitted rest =>
  cases rest with
  | goes created rest =>
  cases rest with
  | goes awaited rest =>
  cases rest with
  | goes listed rest =>
  cases created with
  | reached created =>
  cases created with
  | created asks reports =>
  cases rest with
  | reached inspected =>
    refine ⟨_, _, _, _, by simp, asks, reports, ?_⟩
    unfold Inspecting at inspected
    split at inspected
    · obtain ⟨_, ended⟩ := inspected
      unfold vacuous at ended
      split at ended <;> cases ended
      rfl
    · cases inspected with
      | goes located rest =>
      cases rest with
      | goes checked ended =>
        obtain ⟨_, ended⟩ := ended
        cases ended
        rfl

/-- The title of a report shows the identifier that the platform gave the run, and it has the
active tags of the identifier. So it is inert if and only if the identifier is. -/
theorem run_title_active_iff (verifier : Verifier) {σ : Type} (world : World σ) (start : σ)
    {report : Report} (returned : ((verifier.run .idle).play world start).1 = .ok report) :
    ∃ pipelineId request answer run,
      .request request answer ∈ actsOf ((verifier.run .idle).events world start) ∧
        verifier.AsksCreation pipelineId request ∧ Reports Run.read answer run ∧
        (∃ columns rows summary, report.printed =
          [.table (Report.titleLead ++ run.runId) columns rows, .line summary]) ∧
        (∀ before tag after,
          Active (Report.titleLead ++ run.runId).toList before tag after ↔
            ∃ between, before = Report.titleLead.toList ++ between ∧
              Active run.runId.toList between tag after) ∧
        (IsInert (Report.titleLead ++ run.runId).toList ↔ IsInert run.runId.toList) := by
  have stages := verifier.stages_play .idle world start
  rw [returned] at stages
  obtain ⟨pipelineId, request, answer, run, seen, asks, reports, identified⟩ :=
    identified_of_stages stages
  refine ⟨pipelineId, request, answer, run, seen, asks, reports, ?_⟩
  rw [← Report.title_eq identified]
  exact ⟨⟨_, _, _, rfl⟩, fun before tag after => Report.title_active_iff identified,
    Report.title_isInert_iff identified⟩

/-- The answers of a platform whose identifier for the run is a closing tag. -/
def taggedAnswers : List Answer :=
  (sampleAnswers.set 2 (accepted "\x7b\"run_id\":\"[/red]\"\x7d")).set 3
    (accepted "\x7b\"run_id\":\"[/red]\",\"state\":\"SUCCEEDED\"\x7d")

/-- What a scenario shows in the title of its report. -/
def titleOf : Except Halt Report → Option String
  | .ok report => some report.title
  | .error _ => none

theorem tagged_title :
    titleOf ((sample.run .idle).play (sampleWorld samplePods) taggedAnswers).1 =
      some "Artifacts of run [/red]" := by
  decide +kernel

theorem run_title_active_iff_for_closing_tag :
    ∃ report, ((sample.run .idle).play (sampleWorld samplePods) taggedAnswers).1 = .ok report ∧
      ∃ run : Run, report.title = Report.titleLead ++ run.runId ∧
        (IsInert (Report.titleLead ++ run.runId).toList ↔ IsInert run.runId.toList) := by
  have shown := tagged_title
  generalize ended : ((sample.run .idle).play (sampleWorld samplePods) taggedAnswers).1 = result
    at shown
  match result with
  | .ok report =>
    obtain ⟨_, _, _, run, _, _, _, ⟨_, _, _, printed⟩, _, inert⟩ :=
      run_title_active_iff sample (sampleWorld samplePods) taggedAnswers ended
    obtain ⟨titled, _⟩ := Printed.table.inj (List.cons.inj printed).1
    exact ⟨report, rfl, run, titled, inert⟩
  | .error _ => cases shown

/-- A scenario runs to its end, and the title of its report closes a tag that is not open. -/
theorem run_title_closes_tag :
    ∃ report, ((sample.run .idle).play (sampleWorld samplePods) taggedAnswers).1 = .ok report ∧
      Active report.title.toList Report.titleLead.toList "[/red]".toList [] := by
  have shown := tagged_title
  generalize ended : ((sample.run .idle).play (sampleWorld samplePods) taggedAnswers).1 = result
    at shown
  match result with
  | .ok report =>
    obtain titled : report.title = "Artifacts of run [/red]" := by simpa [titleOf] using shown
    refine ⟨report, rfl, ?_⟩
    rw [titled]
    exact ⟨by decide, .intro '/' "red".toList (by decide) (by simp),
      by decide⟩
  | .error _ => cases shown

end Verifier

end Scenario

end ArtifactAudit
