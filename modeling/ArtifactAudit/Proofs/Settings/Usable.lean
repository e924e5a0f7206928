import ArtifactAudit.Proofs.Cluster.Sessions
import ArtifactAudit.Proofs.Settings.Required
import ArtifactAudit.Proofs.Text.Blank
import ArtifactAudit.Scenario.Verifier

/-!
# Usable settings

A lookup of a pod needs the name of a deployment: without one it stops before any command is
run (`locatePod_course_nil_iff`). Settings that the environment provides have such a name,
because the empty text counts as none there. An option may take it away again, and so may
the slashes that are dropped from an address (`override_usable_iff`).
-/

set_option autoImplicit false

namespace ArtifactAudit

/-! ## Addresses of nothing but slashes -/

theorem Text.withoutFinalSlashes_eq_empty_iff {text : String} :
    Text.withoutFinalSlashes text = "" ↔ ∀ c ∈ text.toList, c = '/' := by
  unfold Text.withoutFinalSlashes
  rw [String.ofList_eq_empty_iff, dropEndWhile_eq, List.rdropWhile_eq_nil_iff]
  simp only [beq_iff_eq]

/-! ## Lookups without a deployment -/

/-- A lookup ends without a command only if it has no deployment to look in. -/
theorem Cluster.locatePod_course_nil_iff (config : KubectlConfig) (deployment selector : String)
    (result : Except Halt Pod) :
    (locatePod config deployment selector).course [] result ↔
      deployment = "" ∧ result = .error (.fault (.value "namespace must not be empty")) := by
  constructor
  · rintro ⟨events, silent, run⟩
    by_cases unnamed : deployment = ""
    · subst unnamed
      exact ⟨rfl, (locatePod_unnamed config selector events result run).2⟩
    · obtain ⟨answer, acts, _⟩ := locatePod_follows config selector unnamed events result run
      rw [silent] at acts
      cases acts
  · rintro ⟨rfl, rfl⟩
    exact ⟨[], rfl, Script.runs_halt_iff.mpr ⟨rfl, rfl⟩⟩

namespace Options

variable {options : Options} {environment : Environment} {config : ScenarioConfig}

/-! ## Overridden settings -/

/-- Only an option takes the name of the deployment away. -/
theorem deployment_eq_empty_iff (loads : options.loadConfig environment = .ok config) :
    (options.override config).deployment = "" ↔ options.deployment = some "" := by
  have merged := (merges_override loads).deployment
  cases given : options.deployment with
  | none =>
    rw [given, wins_none] at merged
    obtain ⟨_, present⟩ := Environment.require_eq_ok.mp merged
    simp [present]
  | some deployment =>
    rw [given, wins_some] at merged
    rw [merged, Option.some_inj]

/-- The address is that of the option or the variable, without the slashes at its end. -/
theorem exists_address (loads : options.loadConfig environment = .ok config) :
    ∃ url, options.apiUrl.or (environment.value? "API_URL") = some url ∧
      (options.override config).platform.apiUrl = Text.withoutFinalSlashes url := by
  have merged := (merges_override loads).platform.apiUrl
  cases given : options.apiUrl with
  | none =>
    rw [given, wins_none] at merged
    obtain ⟨url, required, stripped⟩ := merged
    exact ⟨url, (Environment.require_eq_ok.mp required).1, stripped⟩
  | some url =>
    rw [given, wins_some] at merged
    exact ⟨url, rfl, merged⟩

/-- Of the settings that are loaded for some options and overridden by them, the name of the
deployment is usable if and only if the option is not the empty text, and the address if
and only if the one that counts has a character besides slashes. No lookup of a pod stops
for want of a deployment, unless the option is the empty text; then each one does. -/
theorem override_usable_iff (loads : options.loadConfig environment = .ok config) :
    ((options.override config).deployment ≠ "" ↔ options.deployment ≠ some "") ∧
    ((options.override config).platform.apiUrl ≠ "" ↔
      ∃ url, options.apiUrl.or (environment.value? "API_URL") = some url ∧
        ∃ c ∈ url.toList, c ≠ '/') ∧
    ∀ client result,
      ({ config := options.override config, client } : Scenario.Verifier).resolvePod.course
          [] result ↔
        options.deployment = some "" ∧
          result = .error (.fault (.value "namespace must not be empty")) := by
  refine ⟨not_congr (deployment_eq_empty_iff loads), ?_, fun client result => ?_⟩
  · obtain ⟨url, counts, stripped⟩ := exists_address loads
    rw [stripped, ne_eq, Text.withoutFinalSlashes_eq_empty_iff, counts]
    simp
  · rw [← deployment_eq_empty_iff loads]
    exact Cluster.locatePod_course_nil_iff _ _ _ result

/-- An environment whose address is a slash. -/
def slashEnvironment : Environment :=
  [("ARTIFACT_PROBE_API_URL", "/"), ("ARTIFACT_PROBE_NAMESPACE", "dspa"),
    ("ARTIFACT_PROBE_PIPELINE_FILE", "p.yaml")]

/-- An option for the address makes up for it. -/
theorem override_usable_iff_for_given_address : ∃ config,
    ({ apiUrl := some "http://x/" } : Options).loadConfig slashEnvironment = .ok config ∧
      (({ apiUrl := some "http://x/" } : Options).override config).deployment ≠ "" ∧
      (({ apiUrl := some "http://x/" } : Options).override config).platform.apiUrl ≠ "" := by
  have loads : ∃ config,
      ({ apiUrl := some "http://x/" } : Options).loadConfig slashEnvironment = .ok config :=
    ⟨_, rfl⟩
  obtain ⟨config, loads⟩ := loads
  obtain ⟨deployment, address, _⟩ := override_usable_iff loads
  exact ⟨config, loads, deployment.mpr (by decide),
    address.mpr ⟨"http://x/", rfl, 'x', by decide, by decide⟩⟩

/-- An empty option and the slash leave settings with neither a deployment nor an address:
they load, and the lookup of a pod stops. -/
theorem override_leaves_nothing : ∃ config,
    ({ deployment := some "" } : Options).loadConfig slashEnvironment = .ok config ∧
      (({ deployment := some "" } : Options).override config).deployment = "" ∧
      (({ deployment := some "" } : Options).override config).platform.apiUrl = "" ∧
      ∀ client,
        ({ config := ({ deployment := some "" } : Options).override config, client } :
          Scenario.Verifier).resolvePod = .crash (.value "namespace must not be empty") :=
  ⟨_, rfl, rfl, by decide, fun _ => rfl⟩

end Options

end ArtifactAudit
