import ArtifactAudit.Cluster.Exec
import ArtifactAudit.Proofs.Script.Course

/-!
# Commands for the cluster

The lookup of a pod and the execution of a command in a pod each run one command,
and its answer decides (`locatePod_follows`, `outputInPod_follows`).
-/

set_option autoImplicit false

namespace ArtifactAudit.Cluster

theorem runKubectl_follows (config : KubectlConfig) (arguments : List String) (limit : Float) :
    (runKubectl config arguments limit).Follows fun acts result => ∃ answer,
      acts = [.command { words := baseCommand config ++ arguments, limit } answer] ∧
        result = .ok answer := by
  refine Script.Follows.after_log fun _ => ?_
  intro events result run
  obtain ⟨answer, rfl, rfl⟩ := Script.runs_perform_iff.mp run
  exact ⟨answer, rfl, rfl⟩

/-- A kubectl command is seen, and its answer decides what follows. -/
theorem runKubectl_bind_follows {α : Type} (config : KubectlConfig) (arguments : List String)
    (limit : Float) {next : CommandAnswer → Script α}
    (ending : CommandAnswer → Except Halt α → Prop)
    (decides : ∀ answer,
      (next answer).Follows fun acts result => acts = [] ∧ ending answer result) :
    ((runKubectl config arguments limit).bind next).Follows fun acts result => ∃ answer,
      acts = [.command { words := baseCommand config ++ arguments, limit } answer] ∧
        ending answer result := by
  refine (Script.Follows.bind (runKubectl_follows config arguments limit) decides).mono
    fun acts result follows => ?_
  obtain ⟨_, _, _, rfl, ⟨answer, rfl, same⟩, rfl, ended⟩ := follows.of_giving (by simp)
  cases same
  exact ⟨_, rfl, ended⟩

/-! ## Finding a pod -/

/-- The command that lists the pods with a label. -/
def podCommand (config : KubectlConfig) (deployment selector : String) : Command where
  words := baseCommand config ++ listArguments deployment selector
  limit := config.requestTimeout

/-- The name of the first pod of a listing, if the listing can be read and has one. -/
def leadingName? (listing : String) : Option Json.Value :=
  (readItems listing).toOption.bind fun items =>
    if items.isEmpty then none else (firstName items).toOption.filter fun name => !name.isEmpty

/-- The pod that the answer to the listing of pods gives, if it gives one. -/
def podIn? (deployment : String) : CommandAnswer → Option Pod
  | .finished finished =>
    if finished.code = 0 then
      (leadingName? finished.captured.output).map fun name => { name, deployment }
    else none
  | _ => none

/-- What may come of the answer to the listing of pods. -/
inductive Locates (deployment : String) (answer : CommandAnswer) : Except Halt Pod → Prop where
  | found {pod : Pod} : podIn? deployment answer = some pod → Locates deployment answer (.ok pod)
  /-- There is no listing. -/
  | unlisted (message : String) :
      podIn? deployment answer = none →
        Locates deployment answer (.error (.failure (.pod (.listing message))))
  /-- The listing names no pod. -/
  | missing (message : String) :
      podIn? deployment answer = none →
        Locates deployment answer (.error (.failure (.pod (.notFound message))))
  /-- The answer is a fault, or brings one. -/
  | upset (fault : Fault) :
      podIn? deployment answer = none → Locates deployment answer (.error (.fault fault))

theorem choosePod_follows (deployment selector : String) {finished : Finished}
    (success : finished.code = 0) :
    (choosePod deployment selector finished.captured.output).Follows fun acts result =>
      acts = [] ∧ Locates deployment (.finished finished) result := by
  have pod : podIn? deployment (.finished finished) =
      (leadingName? finished.captured.output).map fun name => { name, deployment } :=
    if_pos success
  unfold leadingName? at pod
  unfold choosePod
  cases reading : readItems finished.captured.output with
  | error error =>
    rw [reading] at pod
    cases error with
    | unreadable message => exact Script.Follows.halt ⟨rfl, .unlisted _ pod⟩
    | fault fault => exact Script.Follows.halt ⟨rfl, .upset _ pod⟩
  | ok items =>
    rw [reading] at pod
    simp only [Except.toOption, Option.bind_some] at pod
    dsimp only
    split
    · rename_i empty
      rw [if_pos empty] at pod
      exact Script.Follows.halt ⟨rfl, .missing _ pod⟩
    · rename_i nonempty
      rw [if_neg nonempty] at pod
      cases first : firstName items with
      | error fault =>
        rw [first] at pod
        exact Script.Follows.halt ⟨rfl, .upset _ pod⟩
      | ok name =>
        rw [first] at pod
        simp only [Option.filter_some] at pod
        dsimp only
        split
        · rename_i nameless
          rw [nameless] at pod
          exact Script.Follows.halt ⟨rfl, .missing _ pod⟩
        · rename_i named
          rw [if_pos (by simpa using named)] at pod
          split
          · exact Script.Follows.after_log fun _ => Script.Follows.after_log fun _ =>
              Script.Follows.done ⟨rfl, .found pod⟩
          · exact Script.Follows.after_log fun _ => Script.Follows.done ⟨rfl, .found pod⟩

/-- A pod of a named deployment is looked up by one command. -/
theorem locatePod_follows (config : KubectlConfig) {deployment : String} (selector : String)
    (named : deployment ≠ "") :
    (locatePod config deployment selector).Follows fun acts result => ∃ answer,
      acts = [.command (podCommand config deployment selector) answer] ∧
        Locates deployment answer result := by
  unfold locatePod
  rw [if_neg (by simpa using named)]
  refine runKubectl_bind_follows config (listArguments deployment selector) config.requestTimeout
    (Locates deployment) fun answer => ?_
  cases answer with
  | timedOut => exact Script.Follows.halt ⟨rfl, .unlisted _ rfl⟩
  | notStarted error => exact Script.Follows.halt ⟨rfl, .unlisted _ rfl⟩
  | fault fault => exact Script.Follows.halt ⟨rfl, .upset _ rfl⟩
  | finished finished =>
    simp only
    split
    · rename_i success
      exact choosePod_follows deployment selector success
    · rename_i failed
      exact Script.Follows.halt ⟨rfl, .unlisted _ (if_neg failed)⟩

/-- Without a deployment there is nothing to look up. -/
theorem locatePod_unnamed (config : KubectlConfig) (selector : String) :
    (locatePod config "" selector).Follows
      (Course.ends (.error (.fault (.value "namespace must not be empty")))) :=
  Script.Follows.halt ⟨rfl, rfl⟩

/-! ## Running a command in a pod -/

/-- Whether a command ran to its end: it succeeded, or the messages report the
exit code of the remote command. -/
def RanToEnd (captured : Captured) : Prop :=
  captured.code = 0 ∨ remoteExitPhrase.toList <:+: captured.errors.toList

/-- Whether messages report a broken session. -/
def ReportsBreak (errors : String) : Prop :=
  ∃ phrase ∈ brokenStreamPhrases, phrase.toList <:+: Text.lower errors.toList

theorem classify_eq_ended_iff {captured : Captured} :
    classify captured.code captured.errors = .ended ↔ RanToEnd captured := by
  unfold classify RanToEnd
  rw [← Text.occursIn_iff]
  split
  · rename_i ended
    simpa [Text.mentions] using ended
  · rename_i other
    split <;> simpa [Text.mentions] using other

theorem classify_eq_broken_iff {captured : Captured} :
    classify captured.code captured.errors = .broken ↔
      ¬ RanToEnd captured ∧ ReportsBreak captured.errors := by
  rw [← classify_eq_ended_iff]
  unfold classify ReportsBreak
  simp only [← Text.occursIn_iff]
  split
  · simp
  · split <;> rename_i phrases <;> simpa using phrases

/-- The command that runs a shell command in a pod. -/
def execCommand (config : KubectlConfig) (deployment name command : String) : Command where
  words := baseCommand config ++ (["exec", "-n", deployment, name] ++
    (if config.tty then ["-t"] else []) ++ ["--", "sh", "-c", command])
  limit := config.execTimeout

/-- Only the name of a pod may be no text. -/
theorem texts?_execArguments (config : KubectlConfig) (deployment : String) (pod : Json.Value)
    (command : String) :
    texts? (execArguments config deployment pod command) =
      match pod with
      | .string name => some (["exec", "-n", deployment, name] ++
          (if config.tty then ["-t"] else []) ++ ["--", "sh", "-c", command])
      | _ => none := by
  unfold execArguments
  cases config.tty <;> cases pod <;> rfl

/-- What may come of the answer to the execution of a command in a pod. -/
inductive Executes (config : KubectlConfig) (deployment name : String) :
    CommandAnswer → Except Halt String → Prop where
  /-- The command ran to its end, whatever its exit code. -/
  | completed {finished : Finished} :
      RanToEnd finished.captured →
        Executes config deployment name (.finished finished) (.ok finished.captured.output)
  | late :
      Executes config deployment name .timedOut <| .error <| .failure <| .exec <| .stream
        s!"Command in {deployment}/{name} did not finish within {Number.text config.execTimeout}s"
  | unstarted (error : SystemError) :
      Executes config deployment name (.notStarted error)
        (.error (.failure (.exec (.setup s!"Could not run kubectl: {error.text}"))))
  | broken {finished : Finished} :
      ¬ RanToEnd finished.captured → ReportsBreak finished.captured.errors →
        Executes config deployment name (.finished finished)
          (.error <| .failure <| .exec <| .stream
            s!"Exec stream to {deployment}/{name} failed: {Text.stripped finished.captured.errors}")
  /-- The session was never established. -/
  | unestablished {finished : Finished} :
      ¬ RanToEnd finished.captured → ¬ ReportsBreak finished.captured.errors →
        Executes config deployment name (.finished finished)
          (.error <| .failure <| .exec <| .setup
            s!"Could not exec into {deployment}/{name}: {Text.stripped finished.captured.errors}")
  /-- It cannot be passed on. -/
  | upset (fault : Fault) : Executes config deployment name (.fault fault) (.error (.fault fault))

/-- The course of an execution in a pod: a pod with a name that is a text is sent
one command. -/
inductive Execution (config : KubectlConfig) (deployment : String) (pod : Json.Value)
    (command : String) : List Act → Except Halt String → Prop where
  | nameless :
      (∀ name, pod ≠ .string name) →
        Execution config deployment pod command [] (.error (.fault .wrongKind))
  | run {name : String} {answer : CommandAnswer} {result : Except Halt String} :
      pod = .string name → Executes config deployment name answer result →
        Execution config deployment pod command
          [.command (execCommand config deployment name command) answer] result

/-- A command in a pod with a name is one command of kubectl. If it ran to its end, what it
wrote and its exit code are the result. -/
theorem runInPod_follows (config : KubectlConfig) (deployment name command : String) :
    (runInPod config deployment (.string name) command).Follows fun acts result => ∃ answer,
      acts = [.command (execCommand config deployment name command) answer] ∧
        Executes config deployment name answer (result.map (·.output)) ∧
        ∀ captured, result = .ok captured →
          ∃ finished, answer = .finished finished ∧ captured = finished.captured := by
  unfold runInPod
  rw [texts?_execArguments]
  refine runKubectl_bind_follows config _ config.execTimeout
    (fun answer result => Executes config deployment name answer (result.map (·.output)) ∧
      ∀ captured, result = .ok captured →
        ∃ finished, answer = .finished finished ∧ captured = finished.captured) fun answer => ?_
  cases answer with
  | timedOut => exact Script.Follows.halt ⟨rfl, .late, nofun⟩
  | notStarted error => exact Script.Follows.halt ⟨rfl, .unstarted error, nofun⟩
  | fault fault => exact Script.Follows.halt ⟨rfl, .upset fault, nofun⟩
  | finished finished =>
    simp only
    cases ended : classify finished.captured.code finished.captured.errors with
    | broken =>
      obtain ⟨unfinished, reports⟩ := classify_eq_broken_iff.mp ended
      exact Script.Follows.halt ⟨rfl, .broken unfinished reports, nofun⟩
    | notEstablished =>
      have unfinished : ¬ RanToEnd finished.captured := by
        simp [← classify_eq_ended_iff, ended]
      have silent : ¬ ReportsBreak finished.captured.errors := fun reports => by
        have broken := classify_eq_broken_iff.mpr ⟨unfinished, reports⟩
        rw [ended] at broken
        cases broken
      exact Script.Follows.halt ⟨rfl, .unestablished unfinished silent, nofun⟩
    | ended =>
      have completed := classify_eq_ended_iff.mp ended
      have returned : (Script.done finished.captured).Follows fun acts result => acts = [] ∧
          Executes config deployment name (.finished finished) (result.map (·.output)) ∧
          ∀ captured, result = .ok captured → ∃ same,
            CommandAnswer.finished finished = .finished same ∧ captured = same.captured :=
        Script.Follows.done ⟨rfl, .completed completed, fun _ same =>
          ⟨finished, rfl, (Except.ok.inj same).symm⟩⟩
      simp only
      split
      · exact Script.Follows.after_log fun _ => returned
      · exact returned

theorem outputInPod_follows (config : KubectlConfig) (deployment : String) (pod : Json.Value)
    (command : String) :
    (outputInPod config deployment pod command).Follows
      (Execution config deployment pod command) := by
  cases pod with
  | string name =>
    refine (Script.Follows.bind (runInPod_follows config deployment name command)
      fun captured => Script.Follows.returns captured.output).mono fun acts result follows => ?_
    cases follows with
    | stops stopped =>
      obtain ⟨answer, rfl, executes, _⟩ := stopped
      exact .run rfl executes
    | goes gave returned =>
      obtain ⟨answer, rfl, executes, _⟩ := gave
      obtain ⟨rfl, rfl⟩ := returned
      exact .run rfl executes
  | _ =>
    unfold outputInPod runInPod
    rw [texts?_execArguments]
    exact Script.Follows.halt (.nameless (by simp))

end ArtifactAudit.Cluster
