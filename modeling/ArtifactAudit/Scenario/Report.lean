import ArtifactAudit.Cluster.Pod
import ArtifactAudit.Markup.Escape

/-!
# Reports

A report holds one outcome for each listed artifact. Its verdict is a failure
that carries the failed outcomes, if there are any. It is printed as a table with
a row for each outcome and a line that sums up.
-/

set_option autoImplicit false

namespace ArtifactAudit.Scenario

/-- What came of a scenario. -/
structure Report where
  runId : Option String := none
  /-- The pod from which artifacts were downloaded. -/
  pod : Option Cluster.Pod := none
  /-- The outcomes, in the order of the listing. -/
  outcomes : List Outcome := []

/-- What is printed: a table or a line of markup. -/
inductive Printed where
  /-- A table, with its cells in markup. -/
  | table (title : String) (columns : List String) (rows : List (List String))
  | line (markup : String)
  deriving DecidableEq, Repr

namespace Report

/-- The failed outcomes, in order. -/
def failures (report : Report) : List Outcome :=
  Outcome.failures report.outcomes

/-- Whether no outcome failed. -/
def succeeded (report : Report) : Bool :=
  report.failures.isEmpty

/-- The failure that carries the failed outcomes. -/
def failure (report : Report) : Failure :=
  .verificationFailed report.failures

/-- The verdict: a failure if any outcome failed. -/
def verdict (report : Report) : Except Failure Unit :=
  if report.succeeded then .ok () else .error report.failure

/-- The mark of a passed check. -/
def passMark : String := "[green]PASS[/green]"

/-- The mark of a failed check. -/
def failMark : String := "[red]FAIL[/red]"

/-- What the table says about an outcome beyond its mark: the message, if there
is one, or the download address. -/
def details (outcome : Outcome) : String :=
  match outcome.message.filter (!·.isEmpty) with
  | some message => message
  | none => outcome.downloadUrl.getD ""

def row (outcome : Outcome) : List String :=
  [Markup.escape outcome.artifactId, if outcome.succeeded then passMark else failMark,
    Markup.escape (details outcome)]

/-- The title of the table. -/
def title (report : Report) : String :=
  "Artifacts of run " ++ report.runId.getD "None"

/-- The line that sums up. -/
def summary (report : Report) : String :=
  if report.succeeded then
    s!"[bold green]✅ {report.outcomes.length} artifact(s) verified[/bold green]"
  else
    s!"[bold red]❌ {report.failures.length} of {report.outcomes.length} " ++
      "artifact(s) failed verification[/bold red]"

def printed (report : Report) : List Printed :=
  [.table report.title ["Artifact", "Result", "Details"] (report.outcomes.map row),
    .line report.summary]

end Report

end ArtifactAudit.Scenario
