import ArtifactAudit.Proofs.Settings.Interchange

/-!
# Required settings

Three settings have no default. They are looked for in a fixed order, and the first that
cannot be had is reported (`requireAll_eq_error`). When all numbers can be read, nothing else
keeps settings from being loaded (`scenarioConfig_eq_error`). So loading them for some
options reports the first required setting that the options and the environment leave
open (`loadConfig_reports_first`).

A setting is left open when neither has a text for it. It is also left open by a variable
that is present and empty, whatever the option says: an option stands in for an absent
variable only (`loadConfig_refuses_given_address`).
-/

set_option autoImplicit false

namespace ArtifactAudit

/-! ## Texts that are there -/

/-- Whether there is no text, or only the empty one. -/
def Unset (held : Option String) : Prop :=
  ∀ text, held = some text → text = ""

@[simp] theorem unset_none : Unset none :=
  nofun

@[simp] theorem unset_some {text : String} : Unset (some text) ↔ text = "" :=
  ⟨fun unset => unset text rfl, fun empty _ same => (Option.some.inj same).symm.trans empty⟩

theorem unset_or_text (held : Option String) :
    Unset held ∨ ∃ text, held = some text ∧ text ≠ "" := by
  cases held with
  | none => exact .inl unset_none
  | some text =>
    by_cases empty : text = ""
    · exact .inl (unset_some.mpr empty)
    · exact .inr ⟨text, rfl, empty⟩

/-- The empty text counts as none. -/
theorem Unset.filter {held : Option String} (unset : Unset held) :
    held.filter (!·.isEmpty) = none := by
  cases held with
  | none => rfl
  | some text => simp [Option.filter_some, unset_some.mp unset]

/-! ## Looking for all of them -/

/-- The settings without a default, in the order in which they are looked for. -/
def Setting.required : List Setting :=
  [deployment, apiUrl, pipelineFile]

namespace Environment

variable {environment : Environment} {error : SettingError}

theorem require_of_unset {name : String} (unset : Unset (environment.value? name)) :
    environment.require name = .error (.missing (variableOf name)) := by
  rw [require, unset.filter]

theorem require_eq_ok {name text : String} :
    environment.require name = .ok text ↔ environment.value? name = some text ∧ text ≠ "" := by
  constructor
  · intro required
    rcases unset_or_text (environment.value? name) with unset | ⟨held, found, present⟩
    · rw [require_of_unset unset] at required
      cases required
    · rw [Options.require_of_value? found present] at required
      cases required
      exact ⟨found, present⟩
  · rintro ⟨found, present⟩
    exact Options.require_of_value? found present

/-- Looks for some settings one after the other. -/
def requireAll (environment : Environment) : List Setting → Except SettingError Unit
  | [] => .ok ()
  | setting :: settings =>
    match environment.require setting.name with
    | .error error => .error error
    | .ok _ => environment.requireAll settings

theorem requireAll_cons_eq_error {setting : Setting} {settings : List Setting} :
    environment.requireAll (setting :: settings) = .error error ↔
      Unset (environment.value? setting.name) ∧ error = .missing (variableOf setting.name) ∨
      ¬ Unset (environment.value? setting.name) ∧
        environment.requireAll settings = .error error := by
  rw [requireAll]
  rcases unset_or_text (environment.value? setting.name) with unset | ⟨text, held, present⟩
  · rw [require_of_unset unset]
    simp [unset, eq_comm]
  · rw [Options.require_of_value? held present, held]
    simp [present]

/-- The first of the settings that is not there is reported. -/
theorem requireAll_eq_error {settings : List Setting} :
    environment.requireAll settings = .error error ↔
      ∃ earlier setting later, settings = earlier ++ setting :: later ∧
        (∀ other ∈ earlier, ¬ Unset (environment.value? other.name)) ∧
        Unset (environment.value? setting.name) ∧
        error = .missing (variableOf setting.name) := by
  induction settings with
  | nil => simp [requireAll]
  | cons first rest ih =>
    rw [requireAll_cons_eq_error]
    constructor
    · rintro (⟨unset, reported⟩ | ⟨here, stopped⟩)
      · exact ⟨[], first, rest, rfl, nofun, unset, reported⟩
      · obtain ⟨earlier, setting, later, rfl, set, unset, reported⟩ := ih.mp stopped
        exact ⟨first :: earlier, setting, later, rfl, List.forall_mem_cons.mpr ⟨here, set⟩,
          unset, reported⟩
    · rintro ⟨earlier, setting, later, same, set, unset, reported⟩
      cases earlier with
      | nil =>
        obtain ⟨rfl, rfl⟩ := List.cons.inj same
        exact .inl ⟨unset, reported⟩
      | cons head earlier =>
        obtain ⟨rfl, rfl⟩ := List.cons.inj same
        obtain ⟨here, set⟩ := List.forall_mem_cons.mp set
        exact .inr ⟨here, ih.mpr ⟨earlier, setting, later, rfl, set, unset, reported⟩⟩

/-- Whether the numbers of an environment can be read. -/
structure Parses (environment : Environment) : Prop where
  requestTimeout : ∃ seconds, environment.fractional "REQUEST_TIMEOUT" "30" = .ok seconds
  pollInterval : ∃ seconds, environment.fractional "POLL_INTERVAL" "5" = .ok seconds
  lookupAttempts : ∃ attempts, environment.whole "LOOKUP_ATTEMPTS" "10" = .ok attempts
  runTimeout : ∃ seconds, environment.fractional "RUN_TIMEOUT" "900" = .ok seconds
  kubectlTimeout : ∃ seconds, environment.fractional "KUBECTL_TIMEOUT" "30" = .ok seconds
  execTimeout : ∃ seconds, environment.fractional "EXEC_TIMEOUT" "60" = .ok seconds
  maxWorkers : ∃ workers, environment.whole "MAX_WORKERS" "1" = .ok workers

/-- Numbers that can be read keep no settings from being loaded. -/
theorem scenarioConfig_eq_error (parses : environment.Parses) :
    environment.scenarioConfig = .error error ↔
      environment.requireAll Setting.required = .error error := by
  obtain ⟨_, requestTimeout⟩ := parses.requestTimeout
  obtain ⟨_, pollInterval⟩ := parses.pollInterval
  obtain ⟨_, lookupAttempts⟩ := parses.lookupAttempts
  obtain ⟨_, runTimeout⟩ := parses.runTimeout
  obtain ⟨_, kubectlTimeout⟩ := parses.kubectlTimeout
  obtain ⟨_, execTimeout⟩ := parses.execTimeout
  obtain ⟨_, maxWorkers⟩ := parses.maxWorkers
  simp only [scenarioConfig, platformConfig, kubectlConfig, requestTimeout, pollInterval,
    lookupAttempts, runTimeout, kubectlTimeout, execTimeout, maxWorkers, bind, Except.bind, pure,
    Except.pure, Setting.required, requireAll, Setting.name]
  cases environment.require "NAMESPACE" with
  | error missing => simp
  | ok deployment =>
    cases environment.require "API_URL" with
    | error missing => simp
    | ok apiUrl => cases environment.require "PIPELINE_FILE" <;> simp

end Environment

/-! ## Options for absent variables -/

namespace Options

variable {options : Options} {environment : Environment}

/-- The text that options give for a required setting. -/
def textFor (options : Options) : Setting → Option String
  | .deployment => options.deployment
  | .apiUrl => options.apiUrl
  | .pipelineFile => options.pipelineFile
  | _ => none

/-- Whether options and an environment leave a required setting open. -/
inductive LeavesOpen (options : Options) (environment : Environment) (setting : Setting) : Prop
  | neither :
      Unset (environment.value? setting.name) → Unset (options.textFor setting) →
        LeavesOpen options environment setting
  /-- An empty variable keeps the option out. -/
  | emptied :
      environment.value? setting.name = some "" → LeavesOpen options environment setting

/-- An option that is not empty is the value of an absent variable. -/
theorem value?_standIn_self (setting : String) (option : Option String) :
    (standIn setting option environment).value? setting =
      (environment.value? setting).or (option.filter (!·.isEmpty)) := by
  cases option with
  | none => simp [standIn]
  | some text =>
    cases held : environment.value? setting with
    | some value => simp [standIn, held]
    | none =>
      by_cases empty : text = ""
      · simp [standIn, held, empty, Option.filter_some]
      · have absent : environment.lookup (Environment.variableOf setting) = none := held
        simp [standIn, empty, filter_of_ne_empty empty, Environment.value?, List.lookup_append,
          absent]

/-- Each required setting has the stand-in of its own option. -/
theorem value?_standIns_required {setting : Setting} (required : setting ∈ Setting.required) :
    (options.standIns environment).value? setting.name =
      (environment.value? setting.name).or ((options.textFor setting).filter (!·.isEmpty)) := by
  unfold standIns
  simp only [Setting.required, List.mem_cons, List.not_mem_nil, or_false] at required
  rcases required with rfl | rfl | rfl
  · rw [value?_standIn (.inl (by decide))]
    exact (value?_standIn_self _ _).trans
      (congrArg (Option.or · _) (value?_standIn (.inl (by decide))))
  · rw [value?_standIn (.inl (by decide)), value?_standIn (.inl (by decide))]
    exact value?_standIn_self _ _
  · refine (value?_standIn_self _ _).trans (congrArg (Option.or · _) ?_)
    rw [value?_standIn (.inl (by decide)), value?_standIn (.inl (by decide))]
    rfl

theorem unset_standIns_iff {setting : Setting} (required : setting ∈ Setting.required) :
    Unset ((options.standIns environment).value? setting.name) ↔
      options.LeavesOpen environment setting := by
  rw [value?_standIns_required required]
  constructor
  · intro unset
    cases held : environment.value? setting.name with
    | some text =>
      rw [held, Option.some_or, unset_some] at unset
      exact .emptied (unset ▸ held)
    | none =>
      rw [held, Option.none_or] at unset
      refine .neither (held ▸ unset_none) ?_
      rcases unset_or_text (options.textFor setting) with open_ | ⟨text, given, present⟩
      · exact open_
      · rw [given, filter_of_ne_empty present] at unset
        exact absurd (unset_some.mp unset) present
  · rintro (⟨absent, open_⟩ | held)
    · rw [open_.filter, Option.or_none]
      exact absent
    · rw [held]
      exact unset_some.mpr rfl

/-- Nothing stands in for the other settings. -/
theorem value?_standIns_of_free {name : String}
    (free : name ∉ Setting.required.map Setting.name) :
    (options.standIns environment).value? name = environment.value? name := by
  simp only [Setting.required, List.map_cons, List.map_nil, Setting.name, List.mem_cons,
    List.not_mem_nil, or_false, not_or] at free
  obtain ⟨deployment, address, file⟩ := free
  exact value?_standIns (.inl address) (.inl deployment) (.inl file)

theorem parses_standIns (parses : environment.Parses) :
    (options.standIns environment).Parses := by
  have fractional {name default : String} (free : name ∉ Setting.required.map Setting.name)
      (reads : ∃ number, environment.fractional name default = .ok number) :
      ∃ number, (options.standIns environment).fractional name default = .ok number := by
    rwa [Environment.fractional_congr (value?_standIns_of_free free)]
  have whole {name default : String} (free : name ∉ Setting.required.map Setting.name)
      (reads : ∃ number, environment.whole name default = .ok number) :
      ∃ number, (options.standIns environment).whole name default = .ok number := by
    rwa [Environment.whole_congr (value?_standIns_of_free free)]
  exact {
    requestTimeout := fractional (by decide) parses.requestTimeout
    pollInterval := fractional (by decide) parses.pollInterval
    lookupAttempts := whole (by decide) parses.lookupAttempts
    runTimeout := fractional (by decide) parses.runTimeout
    kubectlTimeout := fractional (by decide) parses.kubectlTimeout
    execTimeout := fractional (by decide) parses.execTimeout
    maxWorkers := whole (by decide) parses.maxWorkers }

/-- If all numbers can be read, loading fails for one reason only: options and environment
leave a required setting open. The first one is reported, by the name of its variable. -/
theorem loadConfig_reports_first (options : Options) {environment : Environment}
    (parses : environment.Parses) (error : SettingError) :
    options.loadConfig environment = .error error ↔
      ∃ earlier setting later, Setting.required = earlier ++ setting :: later ∧
        (∀ other ∈ earlier, ¬ options.LeavesOpen environment other) ∧
        options.LeavesOpen environment setting ∧
        error = .missing (Environment.variableOf setting.name) ∧
        error.message =
          Environment.variableOf setting.name ++ " environment variable is required." := by
  have asked : options.loadConfig environment = .error error ↔
      (options.standIns environment).requireAll Setting.required = .error error :=
    Environment.scenarioConfig_eq_error (parses_standIns parses)
  rw [asked, Environment.requireAll_eq_error]
  refine exists_congr fun earlier => exists_congr fun setting => exists_congr fun later =>
    and_congr_right fun split => ?_
  have here : setting ∈ Setting.required := split ▸ by simp
  have among : ∀ other ∈ earlier, other ∈ Setting.required := fun other early =>
    split ▸ List.mem_append_left _ early
  refine and_congr (forall₂_congr fun other early => not_congr ?_) (and_congr ?_ ?_)
  · exact unset_standIns_iff (among other early)
  · exact unset_standIns_iff here
  · constructor
    · rintro rfl
      exact ⟨rfl, rfl⟩
    · exact And.left

/-- An environment that names a deployment only. -/
def deploymentOnly : Environment :=
  [("ARTIFACT_PROBE_NAMESPACE", "dspa")]

/-- With an option for the address, only the pipeline definition is missing. -/
theorem loadConfig_reports_first_for_file :
    deploymentOnly.Parses ∧
      ({ apiUrl := some "http://x" } : Options).loadConfig deploymentOnly =
        .error (.missing "ARTIFACT_PROBE_PIPELINE_FILE") := by
  have parses : deploymentOnly.Parses :=
    ⟨⟨_, rfl⟩, ⟨_, rfl⟩, ⟨_, rfl⟩, ⟨_, rfl⟩, ⟨_, rfl⟩, ⟨_, rfl⟩, ⟨_, rfl⟩⟩
  refine ⟨parses, (loadConfig_reports_first _ parses _).mpr
    ⟨[.deployment, .apiUrl], .pipelineFile, [], rfl, ?_, .neither nofun nofun, rfl, rfl⟩⟩
  intro other early open_
  simp only [List.mem_cons, List.not_mem_nil, or_false] at early
  rcases early with rfl | rfl
  · rcases open_ with ⟨unset, _⟩ | emptied
    · exact absurd (unset "dspa" rfl) (by decide)
    · exact absurd emptied (by decide)
  · rcases open_ with ⟨_, unset⟩ | emptied
    · exact absurd (unset "http://x" rfl) (by decide)
    · exact absurd emptied (by decide)

/-- An environment in which the address is empty. -/
def addressEmptied : Environment :=
  [("ARTIFACT_PROBE_API_URL", ""), ("ARTIFACT_PROBE_NAMESPACE", "dspa"),
    ("ARTIFACT_PROBE_PIPELINE_FILE", "p.yaml")]

/-- An address that is given as an option is reported as missing, because its variable is
there, although it is empty. -/
theorem loadConfig_refuses_given_address :
    addressEmptied.Parses ∧
      (∀ setting ∈ Setting.required,
        ¬ Unset (addressEmptied.value? setting.name) ∨
          ¬ Unset (({ apiUrl := some "http://x" } : Options).textFor setting)) ∧
      ({ apiUrl := some "http://x" } : Options).loadConfig addressEmptied =
        .error (.missing "ARTIFACT_PROBE_API_URL") := by
  refine ⟨⟨⟨_, rfl⟩, ⟨_, rfl⟩, ⟨_, rfl⟩, ⟨_, rfl⟩, ⟨_, rfl⟩, ⟨_, rfl⟩, ⟨_, rfl⟩⟩, ?_, rfl⟩
  intro setting required
  simp only [Setting.required, List.mem_cons, List.not_mem_nil, or_false] at required
  rcases required with rfl | rfl | rfl
  · exact .inl fun unset => absurd (unset "dspa" rfl) (by decide)
  · exact .inr fun unset => absurd (unset "http://x" rfl) (by decide)
  · exact .inl fun unset => absurd (unset "p.yaml" rfl) (by decide)

end Options

end ArtifactAudit
