/-!
# States of a scenario

A scenario submits a pipeline, starts a run, waits for it, lists the artifacts
and gives a verdict. Its state tells how far it has come.
-/

set_option autoImplicit false

namespace ArtifactAudit.Scenario

/-- How far a scenario has come. -/
inductive State where
  | idle
  | pipelineSubmitted
  | runStarted
  | runCompleted
  | artifactsListed
  | verdict
  deriving DecidableEq, Repr

/-- The name of a state in the log. -/
def State.name : State → String
  | idle => "idle"
  | pipelineSubmitted => "pipeline_submitted"
  | runStarted => "run_started"
  | runCompleted => "run_completed"
  | artifactsListed => "artifacts_listed"
  | verdict => "verdict"

end ArtifactAudit.Scenario
