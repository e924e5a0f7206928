import ArtifactAudit.Proofs.Settings.Merging
import ArtifactAudit.Proofs.Settings.Path

/-!
# Options and their variables

An option may be given on the command line or in the environment: the settings that are
loaded and overridden by some options are those of an environment in which the variable
of each given option holds a text that denotes its value
(`override_reads_as_environment`). The options may override the loaded settings in any
order.
-/

set_option autoImplicit false

namespace ArtifactAudit.Options

/-! ## One option at a time -/

/-- The settings with one option, if it is given. -/
def overrideOne (options : Options) (config : ScenarioConfig) : Setting → ScenarioConfig
  | .apiUrl =>
    { config with
      platform.apiUrl :=
        (options.apiUrl.map Text.withoutFinalSlashes).getD config.platform.apiUrl }
  | .deployment => { config with deployment := options.deployment.getD config.deployment }
  | .pipelineName => { config with pipelineName := options.pipelineName.getD config.pipelineName }
  | .pipelineFile => { config with pipelineFile := options.pipelineFile.getD config.pipelineFile }
  | .podSelector => { config with podSelector := options.podSelector.or config.podSelector }
  | .kubeconfig =>
    { config with kubectl.kubeconfig := options.kubeconfig.or config.kubectl.kubeconfig }
  | .context => { config with kubectl.context := options.context.or config.kubectl.context }
  | .runTimeout =>
    { config with platform.runTimeout := options.runTimeout.getD config.platform.runTimeout }
  | .maxWorkers => { config with maxWorkers := options.maxWorkers.getD config.maxWorkers }
  | .failOnEmpty => { config with failOnEmpty := options.failOnEmpty.getD config.failOnEmpty }
  | .insecure =>
    { config with
      platform.verifyTls :=
        if options.insecure = some true then false else config.platform.verifyTls }

variable {options : Options} {environment other : Environment}

/-- An option that is not given changes nothing. -/
theorem overrideOne_of_absent (config : ScenarioConfig) {setting : Setting}
    (absent : options.gives setting = false) : options.overrideOne config setting = config := by
  cases setting <;> simp [gives] at absent <;> simp [overrideOne, absent]

/-- Two options override in either order. -/
theorem overrideOne_comm (config : ScenarioConfig) (first second : Setting) :
    options.overrideOne (options.overrideOne config first) second =
      options.overrideOne (options.overrideOne config second) first := by
  cases first <;> cases second <;> rfl

/-- Only the options that are given count. -/
theorem foldl_filter_gives (config : ScenarioConfig) (order : List Setting) :
    (order.filter options.gives).foldl options.overrideOne config =
      order.foldl options.overrideOne config := by
  rw [List.foldl_filter]
  refine congrArg (fun step => order.foldl step config)
    (funext fun config => funext fun setting => ?_)
  split
  · rfl
  · rename_i absent
    exact (overrideOne_of_absent config (Bool.eq_false_iff.mpr absent)).symm

/-- All options together override as those that are given do one after the other, in any
order. -/
theorem foldl_overrideOne (config : ScenarioConfig) {order : List Setting}
    (once : (order.filter options.gives).Perm (Setting.all.filter options.gives)) :
    order.foldl options.overrideOne config = options.override config :=
  calc order.foldl options.overrideOne config
    _ = (order.filter options.gives).foldl options.overrideOne config :=
      (foldl_filter_gives config order).symm
    _ = (Setting.all.filter options.gives).foldl options.overrideOne config :=
      once.foldl_eq' (fun first _ second _ config => overrideOne_comm config first second) config
    _ = Setting.all.foldl options.overrideOne config := foldl_filter_gives config Setting.all
    _ = options.override config := rfl

/-! ## Options as variables -/

/-- Whether a text turns a setting on. -/
def isOn (text : String) : Bool :=
  Text.lower text.toList == "true".toList

/-- Whether a text denotes the value that is given for a setting. A path may be written
in other ways, but not as the empty text, which counts as none. -/
def Denotes (options : Options) (text : String) : Setting → Prop
  | .apiUrl => options.apiUrl = some text
  | .deployment => options.deployment = some text
  | .pipelineName => options.pipelineName = some text
  | .pipelineFile => ∃ file, options.pipelineFile = some file ∧ text ≠ "" ∧
      Path.ofText text = Path.ofText file
  | .podSelector => options.podSelector = some text
  | .kubeconfig => options.kubeconfig = some text
  | .context => options.context = some text
  | .runTimeout => ∃ limit, options.runTimeout = some limit ∧
      Number.readFractional text = .ok limit
  | .maxWorkers => ∃ workers, options.maxWorkers = some workers ∧
      Number.readWhole text = .ok workers
  | .failOnEmpty => options.failOnEmpty = some (isOn text)
  | .insecure => options.insecure = some true ∧ isOn text = false

/-- The other environment differs in the variables of the given options, which hold texts
that denote their values. -/
structure Sets (options : Options) (environment other : Environment) : Prop where
  given : ∀ setting, options.gives setting = true →
    ∃ text, other.value? setting.name = some text ∧ options.Denotes text setting
  rest : ∀ name, (∀ setting, options.gives setting = true →
    name ≠ Environment.variableOf setting.name) → other.lookup name = environment.lookup name

/-- Options whose empty values would count as none in the environment are not empty. -/
structure Filled (options : Options) : Prop where
  apiUrl : options.apiUrl ≠ some ""
  deployment : options.deployment ≠ some ""
  kubeconfig : options.kubeconfig ≠ some ""

theorem Sets.agrees (sets : options.Sets environment other) : options.Agrees environment other where
  said _ free := sets.rest _ fun setting given same =>
    free setting given (Environment.variableOf_inj.mp same).symm
  common := sets.rest _ fun _ _ => Environment.variableOf_ne_common.symm

/-- A variable holds the value of its option, if only one text denotes it. -/
theorem Sets.held (sets : options.Sets environment other) {value : String} (setting : Setting)
    (given : options.gives setting = true)
    (unique : ∀ text, options.Denotes text setting → some value = some text) :
    other.value? setting.name = some value := by
  obtain ⟨text, held, denotes⟩ := sets.given setting given
  rwa [unique text denotes]

/-! ## Reading the variables -/

section Reading

variable {setting text default : String}

theorem value_of_value? (held : other.value? setting = some text) :
    other.value setting default = text := by
  simp [Environment.value, held]

/-- A text that is not empty counts as present. -/
theorem filter_of_ne_empty (present : text ≠ "") :
    (some text).filter (!·.isEmpty) = some text := by
  rw [Option.filter_some, if_pos (by simp [present])]

theorem require_of_value? (held : other.value? setting = some text) (present : text ≠ "") :
    other.require setting = .ok text := by
  rw [Environment.require, held, filter_of_ne_empty present]

theorem flag_of_value? (held : other.value? setting = some text) :
    other.flag setting default = isOn text := by
  rw [Environment.flag, value_of_value? held, isOn]

theorem fractional_of_value? {number : Float} (held : other.value? setting = some text)
    (reads : Number.readFractional text = .ok number) :
    other.fractional setting default = .ok number := by
  rw [Environment.fractional, value_of_value? held, reads]
  rfl

theorem whole_of_value? {number : Int} (held : other.value? setting = some text)
    (reads : Number.readWhole text = .ok number) :
    other.whole setting default = .ok number := by
  rw [Environment.whole, value_of_value? held, reads]
  rfl

end Reading

/-! An environment that sets the variables of the options says what is merged. -/

theorem Wins.resolve {α : Type} {option : Option α} {given : α → Prop} {otherwise : Prop}
    (wins : Wins option given otherwise)
    (present : ∀ value, option = some value → given value → otherwise) : otherwise := by
  cases option with
  | none => exact wins
  | some value => exact present value rfl wins

theorem MergesPlatform.of_sets {merged : PlatformConfig} (filled : options.Filled)
    (sets : options.Sets environment other) (merges : options.MergesPlatform other merged) :
    ({} : Options).MergesPlatform other merged where
  apiUrl := merges.apiUrl.resolve fun url given stripped => by
    have held := sets.held .apiUrl (by simp [gives, given]) fun _ denotes =>
      given.symm.trans denotes
    have present : url ≠ "" := fun empty => filled.apiUrl (empty ▸ given)
    exact ⟨url, require_of_value? held present, stripped⟩
  verifyTls := by
    have said := merges.verifyTls
    split at said
    · rename_i given
      obtain ⟨text, held, _, off⟩ := sets.given .insecure (by simp [gives, given])
      exact said.trans ((flag_of_value? held).trans off).symm
    · exact said
  token := merges.token
  requestTimeout := merges.requestTimeout
  pollInterval := merges.pollInterval
  lookupAttempts := merges.lookupAttempts
  runTimeout := merges.runTimeout.resolve fun limit given said => by
    obtain ⟨text, held, value, denoted, reads⟩ := sets.given .runTimeout (by simp [gives, given])
    obtain rfl : limit = value := Option.some.inj (given.symm.trans denoted)
    rw [said]
    exact fractional_of_value? held reads

theorem MergesKubectl.of_sets {merged : KubectlConfig} (filled : options.Filled)
    (sets : options.Sets environment other) (merges : options.MergesKubectl other merged) :
    ({} : Options).MergesKubectl other merged where
  binary := merges.binary
  kubeconfig := merges.kubeconfig.resolve fun file given said => by
    have held := sets.held .kubeconfig (by simp [gives, given]) fun _ denotes =>
      given.symm.trans denotes
    have present : file ≠ "" := fun empty => filled.kubeconfig (empty ▸ given)
    have held : other.value? "KUBECONFIG" = some file := held
    rw [said, held, filter_of_ne_empty present]
    rfl
  context := merges.context.resolve fun context given said => by
    have held := sets.held .context (by simp [gives, given]) fun _ denotes =>
      given.symm.trans denotes
    exact said.trans held.symm
  requestTimeout := merges.requestTimeout
  execTimeout := merges.execTimeout
  tty := merges.tty

/-- The path that the environment holds is the one that is merged. -/
theorem Merges.path_of_sets {merged : ScenarioConfig} (sets : options.Sets environment other)
    (merges : options.Merges other merged) :
    ∃ file, other.require "PIPELINE_FILE" = .ok file ∧
      Path.ofText merged.pipelineFile = Path.ofText file := by
  cases given : options.pipelineFile with
  | none =>
    have said := merges.pipelineFile
    rw [given, wins_none] at said
    obtain ⟨file, required, path⟩ := said
    exact ⟨file, required, path ▸ Path.ofText_text_ofText file⟩
  | some path =>
    have said := merges.pipelineFile
    rw [given, wins_some] at said
    obtain ⟨text, held, file, denoted, present, same⟩ :=
      sets.given .pipelineFile (by simp [gives, given])
    obtain rfl : path = file := Option.some.inj (given.symm.trans denoted)
    exact ⟨text, require_of_value? held present, said ▸ same.symm⟩

/-- But for the spelling of the path, the merged settings are those that the environment
holds. -/
theorem Merges.of_sets {merged : ScenarioConfig} {file : String} (filled : options.Filled)
    (sets : options.Sets environment other) (merges : options.Merges other merged)
    (required : other.require "PIPELINE_FILE" = .ok file) :
    ({} : Options).Merges other { merged with pipelineFile := (Path.ofText file).text } where
  deployment := merges.deployment.resolve fun deployment given said => by
    have held := sets.held .deployment (by simp [gives, given]) fun _ denotes =>
      given.symm.trans denotes
    have present : deployment ≠ "" := fun empty => filled.deployment (empty ▸ given)
    exact said ▸ require_of_value? held present
  platform := merges.platform.of_sets filled sets
  kubectl := merges.kubectl.of_sets filled sets
  pipelineName := merges.pipelineName.resolve fun name given said => by
    have held := sets.held .pipelineName (by simp [gives, given]) fun _ denotes =>
      given.symm.trans denotes
    exact said.trans (value_of_value? held).symm
  pipelineFile := ⟨file, required, rfl⟩
  podSelector := merges.podSelector.resolve fun selector given said => by
    have held := sets.held .podSelector (by simp [gives, given]) fun _ denotes =>
      given.symm.trans denotes
    exact said.trans held.symm
  maxWorkers := merges.maxWorkers.resolve fun workers given said => by
    obtain ⟨text, held, value, denoted, reads⟩ := sets.given .maxWorkers (by simp [gives, given])
    obtain rfl : workers = value := Option.some.inj (given.symm.trans denoted)
    rw [said]
    exact whole_of_value? held reads
  failOnEmpty := merges.failOnEmpty.resolve fun must given said => by
    obtain ⟨text, held, denotes⟩ := sets.given .failOnEmpty (by simp [gives, given])
    obtain rfl : must = isOn text := Option.some.inj (given.symm.trans denotes)
    exact said.trans (flag_of_value? held).symm

/-! ## Options and variables are interchangeable -/

/-- Settings that load for some options and are overridden by them are the settings of
every environment in which the variables of the given options hold their values, paths
compared in normal form. Each given option wins over the environment, all other settings
are as the environment says, and the order in which the given options are applied, each
of them once, is irrelevant. -/
theorem override_reads_as_environment {config : ScenarioConfig} (filled : options.Filled)
    (loads : options.loadConfig environment = .ok config)
    (sets : options.Sets environment other) :
    (∃ read, other.scenarioConfig = .ok read ∧
      Path.ofText (options.override config).pipelineFile = Path.ofText read.pipelineFile ∧
      { options.override config with pipelineFile := read.pipelineFile } = read ∧
      (options.override config).labelSelector = read.labelSelector) ∧
    options.Merges environment (options.override config) ∧
    ∀ order : List Setting,
      (order.filter options.gives).Perm (Setting.all.filter options.gives) →
      order.foldl options.overrideOne config = options.override config := by
  have merges := merges_override loads
  have held := merges.of_agrees sets.agrees.symm
  obtain ⟨file, required, same⟩ := held.path_of_sets sets
  refine ⟨⟨_, Environment.scenarioConfig_eq_ok.mpr (held.of_sets filled sets required), ?_, rfl,
    rfl⟩, merges, fun order once => foldl_overrideOne config once⟩
  rw [same, Path.ofText_text_ofText]

/-- Options for five settings. -/
def fiveOptions : Options :=
  { apiUrl := some "http://new/", pipelineFile := some "./q.yaml", maxWorkers := some 4,
    failOnEmpty := some true, insecure := some true }

/-- An environment that lacks a required setting and says another one otherwise. -/
def oldEnvironment : Environment :=
  [("ARTIFACT_PROBE_API_URL", "http://old"), ("ARTIFACT_PROBE_NAMESPACE", "dspa"),
    ("KUBECONFIG", "common")]

/-- The environment in which the variables of the five options hold their values. -/
def newEnvironment : Environment :=
  [("ARTIFACT_PROBE_API_URL", "http://new/"), ("ARTIFACT_PROBE_PIPELINE_FILE", "q.yaml"),
    ("ARTIFACT_PROBE_MAX_WORKERS", "4"), ("ARTIFACT_PROBE_FAIL_ON_EMPTY", "True"),
    ("ARTIFACT_PROBE_VERIFY_TLS", "false")] ++ oldEnvironment

theorem sets_newEnvironment : fiveOptions.Sets oldEnvironment newEnvironment where
  given setting given := by
    cases setting with
    | apiUrl => exact ⟨_, rfl, rfl⟩
    | pipelineFile => exact ⟨_, rfl, _, rfl, by decide, by decide⟩
    | maxWorkers => exact ⟨_, rfl, _, rfl, rfl⟩
    | failOnEmpty => exact ⟨_, rfl, rfl⟩
    | insecure => exact ⟨_, rfl, rfl, rfl⟩
    | deployment | pipelineName | podSelector | kubeconfig | context | runTimeout => cases given
  rest name free := by
    have added : ∀ setting, fiveOptions.gives setting = true →
        (name == Environment.variableOf setting.name) = false :=
      fun setting given => beq_false_of_ne (free setting given)
    rw [newEnvironment, List.lookup_append, List.lookup_eq_none_iff.mpr, Option.none_or]
    intro entry among
    simp only [List.mem_cons, List.not_mem_nil, or_false] at among
    rcases among with rfl | rfl | rfl | rfl | rfl
    · exact congrArg not (added .apiUrl rfl)
    · exact congrArg not (added .pipelineFile rfl)
    · exact congrArg not (added .maxWorkers rfl)
    · exact congrArg not (added .failOnEmpty rfl)
    · exact congrArg not (added .insecure rfl)

/-- Five options, given as options and given as variables. -/
theorem override_reads_as_environment_for_five : ∃ config read,
    fiveOptions.loadConfig oldEnvironment = .ok config ∧
      newEnvironment.scenarioConfig = .ok read ∧
      { fiveOptions.override config with pipelineFile := read.pipelineFile } = read ∧
      (Setting.all.reverse.foldl fiveOptions.overrideOne config) =
        fiveOptions.override config := by
  have filled : fiveOptions.Filled := ⟨by decide, by decide, by decide⟩
  have loads : ∃ config, fiveOptions.loadConfig oldEnvironment = .ok config := ⟨_, rfl⟩
  obtain ⟨config, loads⟩ := loads
  obtain ⟨⟨read, reads, _, same, _⟩, _, anyOrder⟩ :=
    override_reads_as_environment filled loads sets_newEnvironment
  exact ⟨config, read, loads, reads, same, anyOrder _ ((List.reverse_perm _).filter _)⟩

end ArtifactAudit.Options
