import Mathlib.Data.List.Forall2
import ArtifactAudit.Proofs.Scenario.Verdict

/-!
# The views of a report

A report is seen in several ways: as a list of failed outcomes, as a verdict, as a failure
with a message, as rows of a table and as a line that sums up. Each of them goes through the
outcomes for itself. `views_agree` says that they come to the same, for all outcomes: the
failed ones are counted alike everywhere, and the line that announces a success stands below
a table without a failed row.
-/

set_option autoImplicit false

namespace ArtifactAudit

/-! ## Failed outcomes -/

theorem Outcome.failures_sublist (outcomes : List Outcome) :
    (Outcome.failures outcomes).Sublist outcomes :=
  List.filter_sublist

/-- A failed outcome is listed as often as it occurs, and no other is. -/
theorem Outcome.count_failures (outcome : Outcome) (outcomes : List Outcome) :
    (Outcome.failures outcomes).count outcome =
      if outcome.succeeded then 0 else outcomes.count outcome := by
  unfold Outcome.failures
  split <;> rename_i succeeded
  · exact List.count_eq_zero.mpr fun member => by
      have failed := (List.mem_filter.mp member).2
      simp [succeeded] at failed
  · exact List.count_filter (by simpa using succeeded)

/-- A separator stands in front of every part but the first. -/
theorem intercalate_cons (separator first : String) (rest : List String) :
    separator.intercalate (first :: rest) =
      first ++ String.join (rest.map (separator ++ ·)) := by
  induction rest generalizing first with
  | nil => simp
  | cons second rest ih =>
    rw [String.intercalate_cons_cons, ih, List.map_cons, String.join_cons]
    simp only [String.append_assoc]

/-- The message about failed artifacts is a line with their number, and then a line for each. -/
theorem Failure.verificationMessage_eq (failures : List Outcome) :
    Failure.verificationMessage failures =
      s!"{failures.length} artifact(s) failed verification:" ++
        String.join (failures.map fun outcome => "\n" ++ Failure.outcomeLine outcome) := by
  unfold Failure.verificationMessage
  rw [intercalate_cons, List.map_map]
  rfl

namespace Scenario.Report

/-! ## Rows and lines -/

/-- Whether a row is that of a failed check. -/
def isFailRow (row : List String) : Bool :=
  row[1]? == some failMark

/-- Whether a row is about an outcome: it names the artifact, and its mark tells whether the
artifact passed. -/
structure Shows (outcome : Outcome) (row : List String) : Prop where
  named : row[0]? = some (Markup.escape outcome.artifactId)
  passed : row[1]? = some passMark ↔ outcome.succeeded = true
  failed : row[1]? = some failMark ↔ outcome.succeeded = false

/-- The line about artifacts all of which passed. -/
def verifiedLine (count : Nat) : String :=
  s!"[bold green]✅ {count} artifact(s) verified[/bold green]"

/-- The line about artifacts some of which failed. -/
def failedLine (failed count : Nat) : String :=
  s!"[bold red]❌ {failed} of {count} " ++ "artifact(s) failed verification[/bold red]"

theorem shows_row (outcome : Outcome) : Shows outcome (row outcome) := by
  refine ⟨rfl, ?_, ?_⟩ <;> simp only [row, List.getElem?_cons_succ, List.getElem?_cons_zero] <;>
    cases outcome.succeeded <;> decide

/-- A row is that of a failed check if and only if its outcome is. -/
theorem isFailRow_eq {outcome : Outcome} {row : List String} (about : Shows outcome row) :
    isFailRow row = !outcome.succeeded := by
  rw [isFailRow, Bool.eq_iff_iff, beq_iff_eq, about.failed, Bool.not_eq_true']

/-- There are as many failed rows as failed outcomes. -/
theorem countP_isFailRow {outcomes : List Outcome} {rows : List (List String)}
    (shown : List.Forall₂ Shows outcomes rows) :
    rows.countP isFailRow = (Outcome.failures outcomes).length := by
  unfold Outcome.failures
  induction shown with
  | nil => rfl
  | cons about _ ih =>
    rw [List.countP_cons, isFailRow_eq about, ih, List.filter_cons]
    split <;> simp

/-- The two lines differ in the colour of their tag. -/
theorem failedLine_ne_verifiedLine (failed count verified : Nat) :
    failedLine failed count ≠ verifiedLine verified := by
  intro same
  unfold failedLine verifiedLine at same
  have chars := congrArg String.toList same
  simp only [toString, String.toList_append, List.append_assoc] at chars
  have colour := congrArg (·[6]?) chars
  rw [List.getElem?_append_left (by decide), List.getElem?_append_left (by decide)] at colour
  exact absurd colour (by decide)

/-! ## The views together -/

/-- What the views of a report tell, the rows of its table and the line below among them. -/
structure Views (report : Report) (rows : List (List String)) (line : String) : Prop where
  /-- The failures are some of the outcomes, in their order. -/
  failures_sublist : report.failures.Sublist report.outcomes
  /-- The failed outcomes are among them as often as they occur, and no others. -/
  failures_count : ∀ outcome, report.failures.count outcome =
    if outcome.succeeded then 0 else report.outcomes.count outcome
  /-- There is a row for each outcome, in order. -/
  rows_shown : List.Forall₂ Shows report.outcomes rows
  /-- The report is a success if and only if its verdict is no failure, -/
  verdict : report.succeeded = true ↔ report.verdict = .ok ()
  /-- if and only if the line announces a success, -/
  verified : report.succeeded = true ↔ ∃ count, line = verifiedLine count
  /-- and if and only if no row is that of a failed check. -/
  unmarked : report.succeeded = true ↔ rows.countP isFailRow = 0
  /-- The line counts the rows and the failed ones among them. -/
  counted : line =
    if report.succeeded then verifiedLine rows.length
    else failedLine (rows.countP isFailRow) rows.length
  /-- The failure of a verdict carries the failed outcomes. -/
  carried : ∀ failure, report.verdict = .error failure →
    failure = .verificationFailed report.failures
  /-- Its message is a line with their number, and then a line for each, in order. -/
  message : ∀ failure, report.verdict = .error failure →
    failure.message = s!"{rows.countP isFailRow} artifact(s) failed verification:" ++
      String.join (report.failures.map fun outcome =>
        "\n" ++ (s!"  - {outcome.artifactId}: " ++ outcome.message.getD "None"))

variable {report : Report}

/-- A report is a success if it has no failures. -/
theorem succeeded_iff_length : report.succeeded = true ↔ report.failures.length = 0 := by
  rw [succeeded, List.isEmpty_iff, List.length_eq_zero_iff]

theorem verdict_eq_ok_iff : report.verdict = .ok () ↔ report.succeeded = true := by
  unfold verdict
  split <;> rename_i succeeded <;> simp [succeeded]

theorem verdict_eq_error {failure : Failure} (refused : report.verdict = .error failure) :
    failure = .verificationFailed report.failures := by
  unfold verdict at refused
  split at refused <;> cases refused
  rfl

theorem summary_eq : report.summary =
    if report.succeeded then verifiedLine report.outcomes.length
    else failedLine report.failures.length report.outcomes.length :=
  rfl

/-- The views of a report agree, whatever its outcomes are. -/
theorem views_agree (report : Report) :
    ∃ title columns rows line, report.printed = [.table title columns rows, .line line] ∧
      report.Views rows line := by
  have shown : List.Forall₂ Shows report.outcomes (report.outcomes.map row) :=
    List.forall₂_map_right_iff.mpr (List.forall₂_same.mpr fun outcome _ => shows_row outcome)
  have marks := countP_isFailRow shown
  have length : (report.outcomes.map row).length = report.outcomes.length := List.length_map row
  refine ⟨_, _, _, _, rfl, {
    failures_sublist := Outcome.failures_sublist report.outcomes
    failures_count := fun outcome => Outcome.count_failures outcome report.outcomes
    rows_shown := shown
    verdict := verdict_eq_ok_iff.symm
    verified := ?_
    unmarked := by rw [marks]; exact succeeded_iff_length
    counted := by rw [marks, length]; exact summary_eq
    carried := fun failure => verdict_eq_error
    message := ?_ }⟩
  · rw [summary_eq]
    constructor
    · intro succeeded
      exact ⟨_, if_pos succeeded⟩
    · rintro ⟨count, same⟩
      by_contra failed
      rw [if_neg failed] at same
      exact failedLine_ne_verifiedLine _ _ _ same
  · rintro failure refused
    obtain rfl := verdict_eq_error refused
    rw [marks]
    exact Failure.verificationMessage_eq report.failures

end Scenario.Report

end ArtifactAudit
