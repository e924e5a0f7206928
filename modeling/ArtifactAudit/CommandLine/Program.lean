import ArtifactAudit.CommandLine.Options
import ArtifactAudit.Scenario.Verifier

/-!
# The program

The program reads its command line and its settings, runs one scenario and
reports on it. Its exit code tells an audit that passed (0) from one in which an
artifact failed (1) and from one that could not be carried out (2). A fault ends
the program with code 1, also one that comes of printing the report.
-/

set_option autoImplicit false

namespace ArtifactAudit.CommandLine

/-- How the program ends. -/
inductive Ending where
  /-- It explains its options. -/
  | help
  /-- It refuses its command line or its settings. -/
  | usage (error : UsageError)
  /-- The scenario came to a report. -/
  | reported (report : Scenario.Report)
  | aborted (failure : Failure)
  /-- A fault stopped the program. -/
  | stopped (fault : Fault)

namespace Ending

def exitCode : Ending → Nat
  | help => 0
  | usage _ => 2
  | reported report => if report.succeeded then 0 else 1
  | aborted _ => 2
  | stopped _ => 1

/-- The line about a scenario that failed. -/
def abortLine (failure : Failure) : String :=
  s!"[bold red]❌ Scenario aborted: {failure.kind.label}: {Markup.escape failure.message}[/bold red]"

def printed : Ending → List Scenario.Printed
  | reported report => report.printed
  | aborted failure => [.line (abortLine failure)]
  | _ => []

end Ending

/-- What the program leaves to others: how long it may go on, and whether what it prints can be
rendered. Markup that closes a tag which is not open, for one, cannot. -/
structure Conditions where
  /-- Renders what is printed, unless a fault comes of it. -/
  render : Scenario.Printed → Except Fault Unit := fun _ => .ok ()
  /-- How many pages of a listing, or polls of a run, are requested at most. -/
  patience : Nat := Platform.usualPatience

/-- Renders all that an ending has to say. -/
def Conditions.renderAll (conditions : Conditions) (ending : Ending) : Except Fault Unit :=
  ending.printed.forM conditions.render

/-- What became of a call of the program. -/
structure Session where
  /-- The name of the level of the log, once it is known. -/
  logLevel : Option String := none
  /-- The settings, once the scenario has begun. -/
  config : Option ScenarioConfig := none
  /-- How the program ended. -/
  ending : Ending

/-- Writes the failed artifacts of a report to the log. -/
def logFailures (report : Scenario.Report) : Script Unit :=
  if report.succeeded then return ()
  else Script.log .error report.failure.message

/-- Runs the scenario and prints what came of it. Failed artifacts are logged once the report
is printed; a failure of the scenario is logged before it is printed. -/
def runScenario (verifier : Scenario.Verifier) (conditions : Conditions := {}) : Script Ending := do
  match ← (verifier.run .idle).settle with
  | .ok report =>
    match conditions.renderAll (.reported report) with
    | .ok () =>
      logFailures report
      return .reported report
    | .error fault => return .stopped fault
  | .error (.failure failure) =>
    Script.log .error s!"Scenario aborted: {failure.message}"
    match conditions.renderAll (.aborted failure) with
    | .ok () => return .aborted failure
    | .error fault => return .stopped fault
  | .error (.fault fault) => return .stopped fault

/-- Goes on with settings that can be used. -/
def runConfig (logLevel : String) (config : ScenarioConfig) (conditions : Conditions := {}) :
    Script Session :=
  match Platform.Client.ofConfig config.platform conditions.patience with
  | .error fault => return { logLevel := some logLevel, ending := .stopped fault }
  | .ok client => do
    let ending ← runScenario { config, client } conditions
    return { logLevel := some logLevel, config := some config, ending }

/-- Goes on with a command line that can be read. -/
def runRequest (environment : Environment) (request : Request) (conditions : Conditions := {}) :
    Script Session := do
  let logLevel := some request.logLevel
  match ← Script.perform (.setUpLog (.standard request.logLevel)) with
  | .error refused => return { logLevel, ending := .stopped (.value refused.message) }
  | .ok () =>
    match request.options.loadConfig environment with
    | .error error => return { logLevel, ending := .usage (.settings error) }
    | .ok config => runConfig request.logLevel (request.options.override config) conditions

/-- Reads the command line and goes on. -/
def runWords (environment : Environment) (words : List String) (conditions : Conditions := {}) :
    Script Session := do
  match ← read words with
  | .error error => return { ending := .usage error }
  | .ok none => return { ending := .help }
  | .ok (some request) => runRequest environment request conditions

/-- The program. It always ends in order. -/
def run (environment : Environment) (words : List String) (conditions : Conditions := {}) :
    Script Session := do
  match ← (runWords environment words conditions).settle with
  | .ok session => return session
  | .error (.failure failure) => return { ending := .aborted failure }
  | .error (.fault fault) => return { ending := .stopped fault }

end ArtifactAudit.CommandLine
