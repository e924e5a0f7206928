import ArtifactAudit.Settings.Environment

/-!
# Settings from options

An option that is given counts more than its variable. The options for the three
required settings also stand in for their variables when these are missing, so
that the environment may leave them out.
-/

set_option autoImplicit false

namespace ArtifactAudit

/-- The settings given as options. -/
structure Options where
  /-- The base URL of the platform. -/
  apiUrl : Option String := none
  /-- The namespace of the deployment. -/
  deployment : Option String := none
  /-- The name of the uploaded pipeline. -/
  pipelineName : Option String := none
  pipelineFile : Option String := none
  /-- The label selector of the pod. -/
  podSelector : Option String := none
  kubeconfig : Option String := none
  context : Option String := none
  /-- How long a run may take, in seconds. -/
  runTimeout : Option Float := none
  /-- How many artifacts are checked at a time. -/
  maxWorkers : Option Int := none
  /-- Whether a run must leave artifacts. -/
  failOnEmpty : Option Bool := none
  /-- Whether certificates are left unchecked. -/
  insecure : Option Bool := none

namespace Options

/-- The environment with a setting added, unless its variable is present or the
option is empty or not given. -/
def standIn (setting : String) (option : Option String) (environment : Environment) :
    Environment :=
  match option with
  | some value =>
    if value.isEmpty || (environment.value? setting).isSome then environment
    else environment ++ [(Environment.variableOf setting, value)]
  | none => environment

/-- The settings of the environment, the required options standing in for
missing variables. -/
def loadConfig (options : Options) (environment : Environment) :
    Except SettingError ScenarioConfig :=
  (standIn "PIPELINE_FILE" options.pipelineFile
    (standIn "NAMESPACE" options.deployment
      (standIn "API_URL" options.apiUrl environment))).scenarioConfig

/-- The settings of the platform with the options that are given. -/
def overridePlatform (options : Options) (config : PlatformConfig) : PlatformConfig :=
  { config with
    apiUrl := (options.apiUrl.map Text.withoutFinalSlashes).getD config.apiUrl
    runTimeout := options.runTimeout.getD config.runTimeout
    verifyTls := if options.insecure = some true then false else config.verifyTls }

/-- The settings of the cluster with the options that are given. -/
def overrideKubectl (options : Options) (config : KubectlConfig) : KubectlConfig :=
  { config with
    kubeconfig := options.kubeconfig.or config.kubeconfig
    context := options.context.or config.context }

/-- The settings with the options that are given. -/
def override (options : Options) (config : ScenarioConfig) : ScenarioConfig :=
  { deployment := options.deployment.getD config.deployment
    platform := options.overridePlatform config.platform
    pipelineFile := options.pipelineFile.getD config.pipelineFile
    kubectl := options.overrideKubectl config.kubectl
    pipelineName := options.pipelineName.getD config.pipelineName
    podSelector := options.podSelector.or config.podSelector
    maxWorkers := options.maxWorkers.getD config.maxWorkers
    failOnEmpty := options.failOnEmpty.getD config.failOnEmpty }

end Options

end ArtifactAudit
