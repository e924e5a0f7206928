import ArtifactAudit.Number.Literal
import ArtifactAudit.Path
import ArtifactAudit.Settings.Config
import ArtifactAudit.Text.Phrase

/-!
# Settings from the environment

Every setting has a variable. Three are required: the base URL, the namespace
and the pipeline definition; an empty value of these counts as none. All others
have defaults, which stand in for a missing variable but not for an empty one.
The first setting that cannot be used is reported, in a fixed order.
-/

set_option autoImplicit false

namespace ArtifactAudit

/-- The variables of the environment. -/
abbrev Environment : Type := List (String × String)

/-- Why settings cannot be used. -/
inductive SettingError where
  /-- A required variable has no value. -/
  | missing (name : String)
  /-- A number cannot be read. -/
  | literal (error : Number.LiteralError)
  deriving DecidableEq, Repr

/-- The message about settings that cannot be used. -/
def SettingError.message : SettingError → String
  | missing name => s!"{name} environment variable is required."
  | literal error => error.message

namespace Environment

/-- What the name of every variable begins with. -/
def variablePrefix : String := "ARTIFACT_PROBE_"

def variableOf (setting : String) : String :=
  variablePrefix ++ setting

/-- The value of a setting, if its variable is present. -/
def value? (environment : Environment) (setting : String) : Option String :=
  environment.lookup (variableOf setting)

def value (environment : Environment) (setting default : String) : String :=
  (environment.value? setting).getD default

/-- The value of a required setting. -/
def require (environment : Environment) (setting : String) : Except SettingError String :=
  match (environment.value? setting).filter (!·.isEmpty) with
  | some value => .ok value
  | none => .error (.missing (variableOf setting))

/-- A setting that is on or off. Only the word `true`, in any case, turns it on. -/
def flag (environment : Environment) (setting default : String) : Bool :=
  Text.lower (environment.value setting default).toList == "true".toList

def fractional (environment : Environment) (setting default : String) :
    Except SettingError Float :=
  (Number.readFractional (environment.value setting default)).mapError .literal

def whole (environment : Environment) (setting default : String) : Except SettingError Int :=
  (Number.readWhole (environment.value setting default)).mapError .literal

/-- How the platform is reached. -/
def platformConfig (environment : Environment) : Except SettingError PlatformConfig := do
  let apiUrl ← environment.require "API_URL"
  let requestTimeout ← environment.fractional "REQUEST_TIMEOUT" "30"
  let pollInterval ← environment.fractional "POLL_INTERVAL" "5"
  let lookupAttempts ← environment.whole "LOOKUP_ATTEMPTS" "10"
  let runTimeout ← environment.fractional "RUN_TIMEOUT" "900"
  return { apiUrl := Text.withoutFinalSlashes apiUrl
           verifyTls := environment.flag "VERIFY_TLS" "true"
           token := environment.value? "TOKEN"
           requestTimeout, pollInterval, lookupAttempts, runTimeout }

/-- How the cluster is reached. The common variable `KUBECONFIG` stands in for
the one of this program. -/
def kubectlConfig (environment : Environment) : Except SettingError KubectlConfig := do
  let requestTimeout ← environment.fractional "KUBECTL_TIMEOUT" "30"
  let execTimeout ← environment.fractional "EXEC_TIMEOUT" "60"
  return { binary := environment.value "KUBECTL" "kubectl"
           kubeconfig :=
             ((environment.value? "KUBECONFIG").filter (!·.isEmpty)).or
               (environment.lookup "KUBECONFIG")
           context := environment.value? "KUBE_CONTEXT"
           requestTimeout, execTimeout
           tty := environment.flag "EXEC_TTY" "true" }

/-- Everything a scenario needs. -/
def scenarioConfig (environment : Environment) : Except SettingError ScenarioConfig := do
  let deployment ← environment.require "NAMESPACE"
  let platform ← environment.platformConfig
  let kubectl ← environment.kubectlConfig
  let pipelineFile ← environment.require "PIPELINE_FILE"
  let maxWorkers ← environment.whole "MAX_WORKERS" "1"
  return { deployment, platform, kubectl
           pipelineName := environment.value "PIPELINE_NAME" defaultPipelineName
           pipelineFile := (Path.ofText pipelineFile).text
           podSelector := environment.value? "POD_SELECTOR"
           maxWorkers
           failOnEmpty := environment.flag "FAIL_ON_EMPTY" "false" }

/-- The names of all variables that hold settings. -/
def variableNames : List String :=
  "KUBECONFIG" ::
    ["API_URL", "VERIFY_TLS", "TOKEN", "REQUEST_TIMEOUT", "POLL_INTERVAL", "LOOKUP_ATTEMPTS",
      "RUN_TIMEOUT", "KUBECTL", "KUBECONFIG", "KUBE_CONTEXT", "KUBECTL_TIMEOUT", "EXEC_TIMEOUT",
      "EXEC_TTY", "NAMESPACE", "PIPELINE_NAME", "PIPELINE_FILE", "POD_SELECTOR", "MAX_WORKERS",
      "FAIL_ON_EMPTY"].map variableOf

end Environment

end ArtifactAudit
