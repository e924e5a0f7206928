import ArtifactAudit.Settings.Options

/-!
# What merged settings say

`Options.Merges` says, setting by setting, what the settings of options and an
environment are: an option that is given wins, and an option that is not given leaves
its setting as the environment stated. Settings that no option exists for are as the
environment stated.

Without options these are the settings that an environment holds
(`scenarioConfig_eq_ok`), and settings that are loaded for some options and overridden
by them are merged in this sense (`merges_override`).
-/

set_option autoImplicit false

namespace ArtifactAudit

theorem bind_eq_ok {ε α β : Type} {first : Except ε α} {next : α → Except ε β} {result : β} :
    (first >>= next) = .ok result ↔ ∃ value, first = .ok value ∧ next value = .ok result := by
  cases first <;> simp [bind, Except.bind]

/-! ## Looking up a setting -/

namespace Environment

variable {environment other : Environment} {setting : String}

theorem variableOf_inj {name : String} : variableOf setting = variableOf name ↔ setting = name :=
  String.append_right_inj variablePrefix

/-- The common variable is not one of this program. -/
theorem variableOf_ne_common : variableOf setting ≠ "KUBECONFIG" := by
  intro same
  have spelled := String.toList_inj.mpr same
  simp [variableOf, variablePrefix, String.toList_append] at spelled

/-! What an environment says about a setting depends on the variable of the setting
alone. -/

theorem value_congr (same : other.value? setting = environment.value? setting) (default : String) :
    other.value setting default = environment.value setting default := by
  unfold value
  rw [same]

theorem require_congr (same : other.value? setting = environment.value? setting) :
    other.require setting = environment.require setting := by
  unfold require
  rw [same]

theorem flag_congr (same : other.value? setting = environment.value? setting) (default : String) :
    other.flag setting default = environment.flag setting default := by
  unfold flag
  rw [value_congr same]

theorem fractional_congr (same : other.value? setting = environment.value? setting)
    (default : String) :
    other.fractional setting default = environment.fractional setting default := by
  unfold fractional
  rw [value_congr same]

theorem whole_congr (same : other.value? setting = environment.value? setting)
    (default : String) : other.whole setting default = environment.whole setting default := by
  unfold whole
  rw [value_congr same]

end Environment

/-! ## Merged settings -/

namespace Options

/-- A given option decides about its setting; otherwise something else does. -/
def Wins {α : Type} (option : Option α) (given : α → Prop) (otherwise : Prop) : Prop :=
  option.elim otherwise given

@[simp] theorem wins_none {α : Type} {given : α → Prop} {otherwise : Prop} :
    Wins none given otherwise ↔ otherwise :=
  Iff.rfl

@[simp] theorem wins_some {α : Type} {value : α} {given : α → Prop} {otherwise : Prop} :
    Wins (some value) given otherwise ↔ given value :=
  Iff.rfl

/-- How the platform is reached according to options and an environment. -/
structure MergesPlatform (options : Options) (environment : Environment)
    (merged : PlatformConfig) : Prop where
  apiUrl : Wins options.apiUrl (fun url => merged.apiUrl = Text.withoutFinalSlashes url)
    (∃ url, environment.require "API_URL" = .ok url ∧
      merged.apiUrl = Text.withoutFinalSlashes url)
  verifyTls : if options.insecure = some true then merged.verifyTls = false
    else merged.verifyTls = environment.flag "VERIFY_TLS" "true"
  token : merged.token = environment.value? "TOKEN"
  requestTimeout : environment.fractional "REQUEST_TIMEOUT" "30" = .ok merged.requestTimeout
  pollInterval : environment.fractional "POLL_INTERVAL" "5" = .ok merged.pollInterval
  lookupAttempts : environment.whole "LOOKUP_ATTEMPTS" "10" = .ok merged.lookupAttempts
  runTimeout : Wins options.runTimeout (merged.runTimeout = ·)
    (environment.fractional "RUN_TIMEOUT" "900" = .ok merged.runTimeout)

/-- How the cluster is reached according to options and an environment. -/
structure MergesKubectl (options : Options) (environment : Environment)
    (merged : KubectlConfig) : Prop where
  binary : merged.binary = environment.value "KUBECTL" "kubectl"
  kubeconfig : Wins options.kubeconfig (merged.kubeconfig = some ·)
    (merged.kubeconfig = ((environment.value? "KUBECONFIG").filter (!·.isEmpty)).or
      (environment.lookup "KUBECONFIG"))
  context : Wins options.context (merged.context = some ·)
    (merged.context = environment.value? "KUBE_CONTEXT")
  requestTimeout : environment.fractional "KUBECTL_TIMEOUT" "30" = .ok merged.requestTimeout
  execTimeout : environment.fractional "EXEC_TIMEOUT" "60" = .ok merged.execTimeout
  tty : merged.tty = environment.flag "EXEC_TTY" "true"

/-- What is to be verified according to options and an environment, and how. -/
structure Merges (options : Options) (environment : Environment) (merged : ScenarioConfig) :
    Prop where
  deployment : Wins options.deployment (merged.deployment = ·)
    (environment.require "NAMESPACE" = .ok merged.deployment)
  platform : options.MergesPlatform environment merged.platform
  kubectl : options.MergesKubectl environment merged.kubectl
  pipelineName : Wins options.pipelineName (merged.pipelineName = ·)
    (merged.pipelineName = environment.value "PIPELINE_NAME" defaultPipelineName)
  pipelineFile : Wins options.pipelineFile (merged.pipelineFile = ·)
    (∃ file, environment.require "PIPELINE_FILE" = .ok file ∧
      merged.pipelineFile = (Path.ofText file).text)
  podSelector : Wins options.podSelector (merged.podSelector = some ·)
    (merged.podSelector = environment.value? "POD_SELECTOR")
  maxWorkers : Wins options.maxWorkers (merged.maxWorkers = ·)
    (environment.whole "MAX_WORKERS" "1" = .ok merged.maxWorkers)
  failOnEmpty : Wins options.failOnEmpty (merged.failOnEmpty = ·)
    (merged.failOnEmpty = environment.flag "FAIL_ON_EMPTY" "false")

end Options

/-! ## The settings of an environment -/

namespace Environment

variable {environment : Environment}

theorem platformConfig_eq_ok {config : PlatformConfig} :
    environment.platformConfig = .ok config ↔
      ({} : Options).MergesPlatform environment config := by
  unfold platformConfig
  simp only [bind_eq_ok]
  constructor
  · rintro ⟨url, required, requestTimeout, requestRead, pollInterval, pollRead, attempts,
      attemptsRead, runTimeout, runRead, same⟩
    obtain rfl := Except.ok.inj same
    exact ⟨⟨url, required, rfl⟩, rfl, rfl, requestRead, pollRead, attemptsRead, runRead⟩
  · obtain ⟨_, _, _, requestTimeout, pollInterval, attempts, runTimeout⟩ := config
    rintro ⟨⟨url, required, rfl⟩, rfl, rfl, requestRead, pollRead, attemptsRead, runRead⟩
    exact ⟨url, required, _, requestRead, _, pollRead, _, attemptsRead, _, runRead, rfl⟩

theorem kubectlConfig_eq_ok {config : KubectlConfig} :
    environment.kubectlConfig = .ok config ↔
      ({} : Options).MergesKubectl environment config := by
  unfold kubectlConfig
  simp only [bind_eq_ok]
  constructor
  · rintro ⟨requestTimeout, requestRead, execTimeout, execRead, same⟩
    obtain rfl := Except.ok.inj same
    exact ⟨rfl, rfl, rfl, requestRead, execRead, rfl⟩
  · obtain ⟨_, _, _, requestTimeout, execTimeout, _⟩ := config
    rintro ⟨rfl, rfl, rfl, requestRead, execRead, rfl⟩
    exact ⟨_, requestRead, _, execRead, rfl⟩

/-- The settings that an environment holds are the merged ones without options. -/
theorem scenarioConfig_eq_ok {config : ScenarioConfig} :
    environment.scenarioConfig = .ok config ↔ ({} : Options).Merges environment config := by
  unfold scenarioConfig
  simp only [bind_eq_ok, platformConfig_eq_ok, kubectlConfig_eq_ok]
  constructor
  · rintro ⟨deployment, required, platform, platformRead, kubectl, kubectlRead, file, fileRead,
      workers, workersRead, same⟩
    obtain rfl := Except.ok.inj same
    exact ⟨required, platformRead, kubectlRead, rfl, ⟨file, fileRead, rfl⟩, rfl, workersRead, rfl⟩
  · obtain ⟨deployment, platform, _, kubectl, _, _, maxWorkers, _⟩ := config
    rintro ⟨required, platformRead, kubectlRead, rfl, ⟨file, fileRead, rfl⟩, rfl, workersRead,
      rfl⟩
    exact ⟨_, required, _, platformRead, _, kubectlRead, file, fileRead, _, workersRead, rfl⟩

end Environment

/-! ## Given settings -/

/-- The settings that options exist for. -/
inductive Setting where
  | apiUrl
  | deployment
  | pipelineName
  | pipelineFile
  | podSelector
  | kubeconfig
  | context
  | runTimeout
  | maxWorkers
  | failOnEmpty
  | insecure
  deriving DecidableEq, Repr

/-- The name of a setting in the environment. -/
def Setting.name : Setting → String
  | apiUrl => "API_URL"
  | deployment => "NAMESPACE"
  | pipelineName => "PIPELINE_NAME"
  | pipelineFile => "PIPELINE_FILE"
  | podSelector => "POD_SELECTOR"
  | kubeconfig => "KUBECONFIG"
  | context => "KUBE_CONTEXT"
  | runTimeout => "RUN_TIMEOUT"
  | maxWorkers => "MAX_WORKERS"
  | failOnEmpty => "FAIL_ON_EMPTY"
  | insecure => "VERIFY_TLS"

/-- All of them, in the order of the options. -/
def Setting.all : List Setting :=
  [apiUrl, deployment, pipelineName, pipelineFile, podSelector, kubeconfig, context, runTimeout,
    maxWorkers, failOnEmpty, insecure]

theorem Setting.mem_all (setting : Setting) : setting ∈ all := by
  cases setting <;> decide

theorem Setting.name_inj {setting other : Setting} (same : setting.name = other.name) :
    setting = other := by
  cases setting <;> cases other <;> first | rfl | exact absurd same (by decide)

namespace Options

/-- Whether options decide about a setting. Certificates are decided about only by
leaving them unchecked. -/
def gives (options : Options) : Setting → Bool
  | .apiUrl => options.apiUrl.isSome
  | .deployment => options.deployment.isSome
  | .pipelineName => options.pipelineName.isSome
  | .pipelineFile => options.pipelineFile.isSome
  | .podSelector => options.podSelector.isSome
  | .kubeconfig => options.kubeconfig.isSome
  | .context => options.context.isSome
  | .runTimeout => options.runTimeout.isSome
  | .maxWorkers => options.maxWorkers.isSome
  | .failOnEmpty => options.failOnEmpty.isSome
  | .insecure => options.insecure == some true

/-- Two environments say the same but for the settings that options decide about. -/
structure Agrees (options : Options) (environment other : Environment) : Prop where
  said : ∀ name, (∀ setting, options.gives setting = true → setting.name ≠ name) →
    other.value? name = environment.value? name
  common : other.lookup "KUBECONFIG" = environment.lookup "KUBECONFIG"

namespace Agrees

variable {options : Options} {environment other : Environment}

theorem symm (agrees : options.Agrees environment other) : options.Agrees other environment where
  said name free := (agrees.said name free).symm
  common := agrees.common.symm

/-- A setting that the options leave alone. -/
theorem of_absent (agrees : options.Agrees environment other) (setting : Setting)
    (absent : options.gives setting = false) :
    other.value? setting.name = environment.value? setting.name :=
  agrees.said setting.name fun decided given same => by
    rw [Setting.name_inj same, absent] at given
    cases given

/-- A setting that no option exists for. -/
theorem of_free (agrees : options.Agrees environment other) {name : String}
    (free : name ∉ Setting.all.map Setting.name) :
    other.value? name = environment.value? name :=
  agrees.said name fun setting _ same =>
    free (same ▸ List.mem_map_of_mem (Setting.mem_all setting))

end Agrees

theorem Wins.of_cases {α : Type} {option : Option α} {given : α → Prop} {otherwise : Prop}
    (present : ∀ value, option = some value → given value) (absent : option = none → otherwise) :
    Wins option given otherwise := by
  cases option with
  | none => exact absent rfl
  | some value => exact present value rfl

theorem Wins.imp {α : Type} {option : Option α} {given : α → Prop} {first second : Prop}
    (wins : Wins option given first) (absent : option = none → first → second) :
    Wins option given second := by
  cases option with
  | none => exact absent rfl wins
  | some value => exact wins

/-! Merged settings depend on the environment only where the options do not decide. -/

section Agreement

variable {options : Options} {environment other : Environment}

open Environment

theorem MergesPlatform.of_agrees {merged : PlatformConfig}
    (merges : options.MergesPlatform other merged) (agrees : options.Agrees environment other) :
    options.MergesPlatform environment merged where
  apiUrl := merges.apiUrl.imp fun absent ⟨url, required, stripped⟩ =>
    have same := require_congr (agrees.of_absent .apiUrl (by simp [gives, absent]))
    ⟨url, same.symm.trans required, stripped⟩
  verifyTls := by
    have said := merges.verifyTls
    split at said
    · rename_i given
      rwa [if_pos given]
    · rename_i absent
      rw [if_neg absent]
      exact said.trans (flag_congr (agrees.of_absent .insecure (by simp [gives, absent])) _)
  token := merges.token.trans (agrees.of_free (by decide))
  requestTimeout :=
    (fractional_congr (agrees.of_free (by decide)) _).symm.trans merges.requestTimeout
  pollInterval := (fractional_congr (agrees.of_free (by decide)) _).symm.trans merges.pollInterval
  lookupAttempts := (whole_congr (agrees.of_free (by decide)) _).symm.trans merges.lookupAttempts
  runTimeout := merges.runTimeout.imp fun absent said =>
    have same := fractional_congr (agrees.of_absent .runTimeout (by simp [gives, absent])) _
    same.symm.trans said

theorem MergesKubectl.of_agrees {merged : KubectlConfig}
    (merges : options.MergesKubectl other merged) (agrees : options.Agrees environment other) :
    options.MergesKubectl environment merged where
  binary := merges.binary.trans (value_congr (agrees.of_free (by decide)) _)
  kubeconfig := merges.kubeconfig.imp fun absent said => by
    have same : other.value? "KUBECONFIG" = environment.value? "KUBECONFIG" :=
      agrees.of_absent .kubeconfig (by simp [gives, absent])
    rw [said, same, agrees.common]
  context := merges.context.imp fun absent said =>
    said.trans (agrees.of_absent .context (by simp [gives, absent]))
  requestTimeout :=
    (fractional_congr (agrees.of_free (by decide)) _).symm.trans merges.requestTimeout
  execTimeout := (fractional_congr (agrees.of_free (by decide)) _).symm.trans merges.execTimeout
  tty := merges.tty.trans (flag_congr (agrees.of_free (by decide)) _)

theorem Merges.of_agrees {merged : ScenarioConfig} (merges : options.Merges other merged)
    (agrees : options.Agrees environment other) : options.Merges environment merged where
  deployment := merges.deployment.imp fun absent said =>
    have same := require_congr (agrees.of_absent .deployment (by simp [gives, absent]))
    same.symm.trans said
  platform := merges.platform.of_agrees agrees
  kubectl := merges.kubectl.of_agrees agrees
  pipelineName := merges.pipelineName.imp fun absent said =>
    said.trans (value_congr (agrees.of_absent .pipelineName (by simp [gives, absent])) _)
  pipelineFile := merges.pipelineFile.imp fun absent ⟨file, required, path⟩ =>
    have same := require_congr (agrees.of_absent .pipelineFile (by simp [gives, absent]))
    ⟨file, same.symm.trans required, path⟩
  podSelector := merges.podSelector.imp fun absent said =>
    said.trans (agrees.of_absent .podSelector (by simp [gives, absent]))
  maxWorkers := merges.maxWorkers.imp fun absent said =>
    have same := whole_congr (agrees.of_absent .maxWorkers (by simp [gives, absent])) _
    same.symm.trans said
  failOnEmpty := merges.failOnEmpty.imp fun absent said =>
    said.trans (flag_congr (agrees.of_absent .failOnEmpty (by simp [gives, absent])) _)

end Agreement

/-! Overriding what an environment says merges the options with it. -/

section Override

variable {options : Options} {environment : Environment}

theorem MergesPlatform.override {config : PlatformConfig}
    (stated : ({} : Options).MergesPlatform environment config) :
    options.MergesPlatform environment (options.overridePlatform config) where
  apiUrl := .of_cases (fun url given => by simp [overridePlatform, given])
    fun absent => by simpa [overridePlatform, absent] using stated.apiUrl
  verifyTls := by
    split
    · rename_i given
      simp [overridePlatform, given]
    · rename_i absent
      simpa [overridePlatform, absent] using stated.verifyTls
  token := stated.token
  requestTimeout := stated.requestTimeout
  pollInterval := stated.pollInterval
  lookupAttempts := stated.lookupAttempts
  runTimeout := .of_cases (fun limit given => by simp [overridePlatform, given])
    fun absent => by simpa [overridePlatform, absent] using stated.runTimeout

theorem MergesKubectl.override {config : KubectlConfig}
    (stated : ({} : Options).MergesKubectl environment config) :
    options.MergesKubectl environment (options.overrideKubectl config) where
  binary := stated.binary
  kubeconfig := .of_cases (fun file given => by simp [overrideKubectl, given])
    fun absent => by simpa [overrideKubectl, absent] using stated.kubeconfig
  context := .of_cases (fun context given => by simp [overrideKubectl, given])
    fun absent => by simpa [overrideKubectl, absent] using stated.context
  requestTimeout := stated.requestTimeout
  execTimeout := stated.execTimeout
  tty := stated.tty

theorem Merges.override {config : ScenarioConfig}
    (stated : ({} : Options).Merges environment config) :
    options.Merges environment (options.override config) where
  deployment := .of_cases (fun deployment given => by simp [Options.override, given])
    fun absent => by simpa [Options.override, absent] using stated.deployment
  platform := stated.platform.override
  kubectl := stated.kubectl.override
  pipelineName := .of_cases (fun name given => by simp [Options.override, given])
    fun absent => by simpa [Options.override, absent] using stated.pipelineName
  pipelineFile := .of_cases (fun file given => by simp [Options.override, given])
    fun absent => by simpa [Options.override, absent] using stated.pipelineFile
  podSelector := .of_cases (fun selector given => by simp [Options.override, given])
    fun absent => by simpa [Options.override, absent] using stated.podSelector
  maxWorkers := .of_cases (fun workers given => by simp [Options.override, given])
    fun absent => by simpa [Options.override, absent] using stated.maxWorkers
  failOnEmpty := .of_cases (fun must given => by simp [Options.override, given])
    fun absent => by simpa [Options.override, absent] using stated.failOnEmpty

end Override

end Options

/-! ## Loaded and overridden settings -/

namespace Options

variable {options : Options} {environment : Environment}

/-- A stand-in concerns no variable but that of its setting. -/
theorem lookup_standIn {setting name : String} (other : name ≠ Environment.variableOf setting)
    (option : Option String) :
    (standIn setting option environment).lookup name = environment.lookup name := by
  unfold standIn
  split
  · split
    · rfl
    · rw [List.lookup_append, List.lookup_cons, beq_false_of_ne other]
      simp
  · rfl

/-- A setting is left as it is by a stand-in for another one, and by none at all. -/
theorem value?_standIn {setting name : String} {option : Option String}
    (unconcerned : name ≠ setting ∨ option = none) :
    (standIn setting option environment).value? name = environment.value? name := by
  rcases unconcerned with other | rfl
  · exact lookup_standIn (fun same => other (Environment.variableOf_inj.mp same)) option
  · rfl

/-- The environment in which the required options stand in for missing variables. -/
def standIns (options : Options) (environment : Environment) : Environment :=
  standIn "PIPELINE_FILE" options.pipelineFile
    (standIn "NAMESPACE" options.deployment (standIn "API_URL" options.apiUrl environment))

/-- What the required options that are given are not for is said by the environment. -/
theorem value?_standIns {name : String} (address : name ≠ "API_URL" ∨ options.apiUrl = none)
    (deployment : name ≠ "NAMESPACE" ∨ options.deployment = none)
    (file : name ≠ "PIPELINE_FILE" ∨ options.pipelineFile = none) :
    (options.standIns environment).value? name = environment.value? name := by
  unfold standIns
  rw [value?_standIn file, value?_standIn deployment, value?_standIn address]

theorem lookup_standIns :
    (options.standIns environment).lookup "KUBECONFIG" = environment.lookup "KUBECONFIG" := by
  unfold standIns
  rw [lookup_standIn Environment.variableOf_ne_common.symm,
    lookup_standIn Environment.variableOf_ne_common.symm,
    lookup_standIn Environment.variableOf_ne_common.symm]

/-- The stand-ins change only what the options decide about. -/
theorem agrees_standIns : options.Agrees environment (options.standIns environment) where
  said name free := by
    have spared (setting : Setting) : name ≠ setting.name ∨ options.gives setting = false := by
      cases given : options.gives setting with
      | true => exact .inl (free setting given).symm
      | false => exact .inr rfl
    refine value?_standIns ((spared .apiUrl).imp_right ?_) ((spared .deployment).imp_right ?_)
      ((spared .pipelineFile).imp_right ?_) <;>
    exact Option.not_isSome_iff_eq_none.mp ∘ Bool.eq_false_iff.mp
  common := lookup_standIns

/-- Settings that are loaded for some options and overridden by them are merged. -/
theorem merges_override {config : ScenarioConfig}
    (loads : options.loadConfig environment = .ok config) :
    options.Merges environment (options.override config) := by
  have read : ({} : Options).Merges (options.standIns environment) config :=
    Environment.scenarioConfig_eq_ok.mp loads
  exact read.override.of_agrees agrees_standIns

end Options

end ArtifactAudit
