/-!
# Settings of a scenario

Where the platform is and how long to wait for it, how the cluster is reached,
and what is to be verified.
-/

set_option autoImplicit false

namespace ArtifactAudit

/-- How the platform is reached. -/
structure PlatformConfig where
  /-- The base URL of the platform. -/
  apiUrl : String
  /-- Whether certificates are checked. -/
  verifyTls : Bool := true
  /-- The bearer token, if one is needed. -/
  token : Option String := none
  /-- The time limit of a request, in seconds. -/
  requestTimeout : Float := 30
  /-- The pause between two polls, in seconds. -/
  pollInterval : Float := 5
  /-- How often an uploaded pipeline is looked up. -/
  lookupAttempts : Int := 10
  /-- How long a run may take, in seconds. -/
  runTimeout : Float := 900

/-- How the cluster is reached. -/
structure KubectlConfig where
  binary : String := "kubectl"
  /-- The credentials file, if not the standard one. -/
  kubeconfig : Option String := none
  /-- The context, if not the current one. -/
  context : Option String := none
  /-- The time limit of a query, in seconds. -/
  requestTimeout : Float := 30
  /-- The time limit of a command in a pod, in seconds. -/
  execTimeout : Float := 60
  /-- Whether commands in pods get a terminal. -/
  tty : Bool := true

/-- The component whose pod runs the downloads. -/
def defaultComponent : String := "ds-pipeline"

/-- The name an uploaded pipeline gets by default. -/
def defaultPipelineName : String := "Test Iris Pipeline"

/-- The label selector for the pod of a component in a deployment. -/
def podSelector (deployment : String) (component : String := defaultComponent) : String :=
  s!"app={component}-{deployment}"

/-- Everything that a scenario needs. -/
structure ScenarioConfig where
  /-- The namespace of the deployment. -/
  deployment : String
  /-- How the platform is reached. -/
  platform : PlatformConfig
  /-- The pipeline definition to upload. -/
  pipelineFile : String
  /-- How the cluster is reached. -/
  kubectl : KubectlConfig := {}
  /-- The name of the uploaded pipeline. -/
  pipelineName : String := defaultPipelineName
  /-- The label selector of the pod, if not the standard one. -/
  podSelector : Option String := none
  /-- How many artifacts are checked at a time. -/
  maxWorkers : Int := 1
  /-- Whether a run must leave artifacts. -/
  failOnEmpty : Bool := false

/-- The label selector of the pod that runs the downloads. -/
def ScenarioConfig.labelSelector (config : ScenarioConfig) : String :=
  match config.podSelector with
  | some selector =>
    if selector.isEmpty then ArtifactAudit.podSelector config.deployment else selector
  | none => ArtifactAudit.podSelector config.deployment

end ArtifactAudit
