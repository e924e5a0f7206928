import ArtifactAudit.Proofs.Scenario.Progress
import ArtifactAudit.Proofs.Script.Pool

/-!
# Checks at a time

A check makes no calls but requests and commands, and writes to the log. So in a world
that answers each request and each command always alike it does not matter in which
order the checks of several artifacts are made, nor how their calls follow one another:
every check ends as it does alone (`verifyArtifacts_order_free`).
-/

set_option autoImplicit false

namespace ArtifactAudit

/-- A call that asks something of others: a request or a command. -/
def Call.IsExchange : Call → Prop
  | .request _ | .command _ => True
  | _ => False

/-- The answer of the world to a request or a command never changes. -/
def World.Steady {σ : Type} (world : World σ) : Prop :=
  ∀ call : Call, call.IsExchange → world.SteadyAt call

namespace Scenario.Verifier

open Platform Platform.Client Cluster

/-! ## The calls of a check -/

/-- The calls that a check may make. -/
def CheckCall (call : Call) : Prop :=
  call.IsExchange ∨ ∃ line, call = .log line

theorem log_makes (level : Logging.Level) (text : String) :
    (Script.log level text).Makes CheckCall :=
  .ask (.inr ⟨_, rfl⟩) fun _ => .done ()

theorem send_makes (client : Client) (method : Method) (path : String)
    (parameter : Option (String × String)) (body : Body) :
    (client.send method path parameter body).Makes CheckCall := by
  unfold send
  split
  · exact .halt _
  · split
    · exact .halt _
    · split
      · exact .halt _
      · refine .ask (.inl trivial) fun answer => ?_
        cases answer with
        | failed reason => exact .halt _
        | fault fault => exact .halt _
        | response response =>
          dsimp only
          split
          · exact .halt _
          · split
            · exact .done _
            · split <;> exact .halt _

theorem getArtifact_makes (client : Client) (artifactId : String) :
    (client.getArtifact artifactId).Makes CheckCall :=
  (send_makes client _ _ _ _).bind fun _ => .ofExcept _

theorem getDownload_makes (client : Client) (artifactId : String) :
    (client.getDownload artifactId).Makes CheckCall := by
  refine (send_makes client _ _ _ _).bind fun reply => ?_
  split
  · exact (log_makes _ _).bind fun _ => .ofExcept _
  · exact .halt _

theorem resolveDownload_makes (verifier : Verifier) (artifactId : String) :
    (verifier.resolveDownload artifactId).Makes CheckCall :=
  (getArtifact_makes _ _).discard.bind fun _ => (getDownload_makes _ _).bind fun _ => .ofExcept _

theorem runKubectl_makes (config : KubectlConfig) (arguments : List String) (limit : Float) :
    (runKubectl config arguments limit).Makes CheckCall :=
  (log_makes _ _).bind fun _ => .ask (.inl trivial) fun _ => .done _

theorem download_makes (verifier : Verifier) (pod : Pod) (url : String) :
    (verifier.download pod url).Makes CheckCall := by
  refine Script.Makes.bind ?_ fun _ => .done _
  unfold runInPod
  split
  · exact .halt _
  · refine (runKubectl_makes _ _ _).bind fun answer => ?_
    cases answer with
    | timedOut => exact .halt _
    | notStarted error => exact .halt _
    | fault fault => exact .halt _
    | finished finished =>
      dsimp only
      split
      · exact .halt _
      · exact .halt _
      · split
        · exact (log_makes _ _).bind fun _ => .done _
        · exact .done _

/-- A check makes requests and commands, and writes to the log. -/
theorem verifyArtifact_makes (verifier : Verifier) (pod : Pod) (artifactId : String) :
    (verifier.verifyArtifact pod artifactId).Makes CheckCall := by
  refine (verifier.resolveDownload_makes artifactId).attempt.bind fun resolved => ?_
  cases resolved with
  | error failure => exact (log_makes _ _).bind fun _ => .done _
  | ok url =>
    refine (verifier.download_makes pod url).attempt.bind fun executed => ?_
    cases executed with
    | error failure => exact (log_makes _ _).bind fun _ => .done _
    | ok output =>
      dsimp only
      split <;> exact (log_makes _ _).bind fun _ => .done _

/-! ## Checks alone, one after the other and at a time -/

section

variable {verifier : Verifier} {pod : Pod} {artifacts : List String} {σ : Type}
  {world : World σ}

/-- What the check of an artifact ends with when nothing else is checked. -/
def alone (verifier : Verifier) (pod : Pod) (world : World σ) (start : σ) (artifactId : String) :
    Except Halt Outcome :=
  ((verifier.verifyArtifact pod artifactId).play world start).1

theorem steadyAt_of_checkCall (steady : world.Steady) (call : Call) (made : CheckCall call) :
    world.SteadyAt call := by
  rcases made with exchange | ⟨line, rfl⟩
  · exact steady call exchange
  · exact fun _ _ => rfl

theorem verifyArtifact_steady (verifier : Verifier) (pod : Pod) (steady : world.Steady)
    (artifactId : String) : (verifier.verifyArtifact pod artifactId).Makes world.SteadyAt :=
  (verifier.verifyArtifact_makes pod artifactId).mono (steadyAt_of_checkCall steady)

/-- It does not matter when a check is made. -/
theorem alone_eq (steady : world.Steady) (start other : σ) :
    verifier.alone pod world start = verifier.alone pod world other :=
  funext fun artifactId =>
    (Script.play_eq_of_makes (verifier.verifyArtifact_steady pod steady artifactId) start other).1

/-- A failure is an outcome, so only a fault keeps a check from having one. -/
theorem alone_of_unfaulted {start : σ} {artifactId : String}
    (unfaulted : ∀ fault, verifier.alone pod world start artifactId ≠ .error (.fault fault)) :
    ∃ outcome, verifier.alone pod world start artifactId = .ok outcome := by
  have check := verifier.verifyArtifact_follows pod artifactId _ _
    (Script.runs_play world (verifier.verifyArtifact pod artifactId) start)
  cases ended : verifier.alone pod world start artifactId with
  | ok outcome => exact ⟨outcome, rfl⟩
  | error reason =>
    rw [alone] at ended
    rw [ended] at check
    match reason with
    | .failure failure => exact absurd check Check.not_failed
    | .fault fault => exact absurd ended (unfaulted fault)

theorem verifyEach_play (verifier : Verifier) (pod : Pod) (artifacts : List String)
    (steady : world.Steady) (start : σ) :
    ((verifier.verifyEach pod artifacts).play world start).1 =
      (artifacts.map (verifier.alone pod world start)).mapM id := by
  induction artifacts generalizing start with
  | nil => rfl
  | cons artifactId rest ih =>
    have sequence : verifier.verifyEach pod (artifactId :: rest) =
        (verifier.verifyArtifact pod artifactId).bind fun outcome =>
          (verifier.verifyEach pod rest).bind fun outcomes => .done (outcome :: outcomes) := rfl
    rw [sequence, Script.play_bind, List.map_cons, List.mapM_cons, id, alone]
    rcases (verifier.verifyArtifact pod artifactId).play world start with ⟨result, reached⟩
    cases result with
    | error reason => rfl
    | ok outcome =>
      have later := ih reached
      rw [alone_eq steady reached start] at later
      dsimp only
      rw [Script.play_bind, ← later]
      rcases (verifier.verifyEach pod rest).play world reached with ⟨others, last⟩
      cases others <;> rfl

theorem settleEach_play (verifier : Verifier) (pod : Pod) (artifacts : List String)
    (steady : world.Steady) (start : σ) :
    ((verifier.settleEach pod artifacts).play world start).1 =
      .ok (artifacts.map (verifier.alone pod world start)) := by
  induction artifacts generalizing start with
  | nil => rfl
  | cons artifactId rest ih =>
    have sequence : verifier.settleEach pod (artifactId :: rest) =
        (verifier.verifyArtifact pod artifactId).settle.bind fun outcome =>
          (verifier.settleEach pod rest).bind fun outcomes => .done (outcome :: outcomes) := rfl
    rw [sequence, Script.play_bind, Script.play_settle]
    have later := ih ((verifier.verifyArtifact pod artifactId).play world start).2
    rw [alone_eq steady _ start] at later
    dsimp only
    rw [Script.play_bind_of_ok later]
    rfl

/-- Checks at a time have the outcomes of checks one after the other. -/
theorem verifyArtifacts_play (verifier : Verifier) (pod : Pod) (artifacts : List String)
    (steady : world.Steady) (start : σ) :
    ((verifier.verifyArtifacts pod artifacts).play world start).1 =
      (artifacts.map (verifier.alone pod world start)).mapM id := by
  unfold verifyArtifacts
  split
  · have settled := verifier.settleEach_play pod artifacts steady start
    change (((verifier.settleEach pod artifacts).bind _).play world start).1 = _
    rw [Script.play_bind_of_ok settled]
    cases (artifacts.map (verifier.alone pod world start)).mapM id <;> rfl
  · exact verifier.verifyEach_play pod artifacts steady start

/-- Results without an error are the results of a list of values. -/
theorem exists_values {α : Type} {results : List (Except Halt α)}
    (settled : ∀ result ∈ results, ∃ value, result = .ok value) :
    ∃ values, results = values.map .ok ∧ results.mapM id = .ok values := by
  induction results with
  | nil => exact ⟨[], rfl, rfl⟩
  | cons result results ih =>
    obtain ⟨value, rfl⟩ := settled result List.mem_cons_self
    obtain ⟨values, rfl, gathered⟩ := ih fun other among =>
      settled other (List.mem_cons_of_mem _ among)
    refine ⟨value :: values, rfl, ?_⟩
    rw [List.mapM_cons, gathered]
    rfl

end

/-! ## The order of the checks -/

/-- What the checks of some artifacts end with, whatever order they are made in. -/
structure OrderFree (verifier : Verifier) (pod : Pod) (artifacts : List String) {σ : Type}
    (world : World σ) (start : σ) : Prop where
  /-- One after the other they end as each of them does alone. -/
  sequential : ((verifier.verifyEach pod artifacts).play world start).1 =
    (artifacts.map (verifier.alone pod world start)).mapM id
  /-- So they do however many may be made at a time. -/
  limited : ∀ maxWorkers : Int,
    (({ verifier with config.maxWorkers := maxWorkers }.verifyArtifacts pod artifacts).play
      world start).1 = ((verifier.verifyEach pod artifacts).play world start).1
  /-- Whenever workers take the checks up and whatever calls of theirs come first, the
  workers come to an end, and then what each check ended with alone stands at its place. -/
  pooled : ∀ workers, 0 < workers →
    Acc (fun next pool => Pool.Step workers world pool next)
        (Pool.ofScripts (artifacts.map (verifier.verifyArtifact pod)) start) ∧
      ∀ reached, Pool.Steps workers world
          (Pool.ofScripts (artifacts.map (verifier.verifyArtifact pod)) start) reached →
        (∀ next, ¬ Pool.Step workers world reached next) →
        reached.tasks = (artifacts.map (verifier.alone pod world start)).map .settled
  /-- Without faults there is one outcome for each artifact, in order. -/
  outcomes : (∀ artifactId ∈ artifacts, ∀ fault,
      verifier.alone pod world start artifactId ≠ .error (.fault fault)) →
    ∃ outcomes, artifacts.map (verifier.alone pod world start) = outcomes.map .ok ∧
      ((verifier.verifyEach pod artifacts).play world start).1 = .ok outcomes
  /-- In a world that differs in the answers to some requests and commands, the checks
  that make none of these end alike. -/
  unaffected : ∀ {τ : Type} (other : World τ) (otherStart : τ) (differing : Call → Prop),
    (∀ call : Call, call.IsExchange → ¬ differing call → world.AgreesAt other call) →
      ∀ artifactId, (∀ event ∈ (verifier.verifyArtifact pod artifactId).events world start,
        ¬ differing event.call) →
        verifier.alone pod world start artifactId =
          verifier.alone pod other otherStart artifactId

/-- In a world whose answers to requests and commands never change, checks of artifacts
at a time, in any order and with any number of workers, end as they do one after the
other, and a check depends on nothing but the answers to its own requests and commands. -/
theorem verifyArtifacts_order_free (verifier : Verifier) (pod : Pod) (artifacts : List String)
    {σ : Type} {world : World σ} (steady : world.Steady) (start : σ) :
    verifier.OrderFree pod artifacts world start where
  sequential := verifier.verifyEach_play pod artifacts steady start
  limited maxWorkers := by
    rw [verifyArtifacts_play _ _ _ steady, verifyEach_play _ _ _ steady]
    rfl
  pooled workers staffed := by
    have confined : (Pool.ofScripts (artifacts.map (verifier.verifyArtifact pod)) start).Confined
        world := by
      intro task among
      simp only [Pool.ofScripts, List.map_map, List.mem_map, Function.comp] at among
      obtain ⟨artifactId, _, rfl⟩ := among
      exact verifier.verifyArtifact_steady pod steady artifactId
    have settles := Pool.settles start confined staffed
    simpa [Pool.endings, Pool.ofScripts, Function.comp_def, Task.ending, alone] using settles
  outcomes unfaulted := by
    have settled : ∀ result ∈ artifacts.map (verifier.alone pod world start),
        ∃ outcome, result = .ok outcome := by
      intro result among
      obtain ⟨artifactId, listed, rfl⟩ := List.mem_map.mp among
      exact alone_of_unfaulted (unfaulted artifactId listed)
    obtain ⟨outcomes, same, gathered⟩ := exists_values settled
    exact ⟨outcomes, same, (verifier.verifyEach_play pod artifacts steady start).trans gathered⟩
  unaffected other otherStart differing agrees artifactId spared := by
    refine (Script.play_eq_of_agrees _ (fun event happened => ?_) otherStart).1
    rcases (verifier.verifyArtifact_makes pod artifactId).of_mem_events happened with
      exchange | ⟨line, same⟩
    · exact agrees _ exchange (spared event happened)
    · rw [same]
      exact fun _ _ => rfl

/-- A world that gives every request the same body and every command the same output. -/
def steadyWorld (body output : String) : World Unit
  | .request _, state => (accepted body, state)
  | .command _, state => (.finished { output := asciiBytes output, errors := [], code := 0 }, state)
  | .content _, state => (.content [], state)
  | .status _, state => (.file, state)
  | .clock, state => (0, state)
  | .sleep _, state | .setUpLog _, state => (.ok (), state)
  | .log _, state | .enter _, state => ((), state)

theorem steady_steadyWorld (body output : String) : (steadyWorld body output).Steady :=
  fun _ _ _ _ => rfl

def samplePod : Pod := ⟨.string "pod", "ns"⟩

/-- An artifact with a download address. -/
def addressedBody : String := "\x7b\"artifact_id\":\"a\",\"download_url\":\"s://h/p\"\x7d"

/-- An artifact without one. -/
def unaddressedBody : String := "\x7b\"artifact_id\":\"a\"\x7d"

/-- Whether the check of an artifact gave an outcome. -/
def hasOutcome : Except Halt Outcome → Bool
  | .ok _ => true
  | .error _ => false

/-- An artifact that is listed twice has two outcomes, and one without an address is not
affected by what downloads put out. -/
theorem verifyArtifacts_order_free_for_two :
    (∃ outcomes, ((sample.verifyEach samplePod ["a", "a"]).play
        (steadyWorld addressedBody "ok") ()).1 = .ok outcomes ∧ outcomes.length = 2) ∧
      sample.alone samplePod (steadyWorld unaddressedBody "ok") () "a" =
        sample.alone samplePod (steadyWorld unaddressedBody "Access Denied") () "a" := by
  constructor
  · have free := verifyArtifacts_order_free sample samplePod ["a", "a"]
      (steady_steadyWorld addressedBody "ok") ()
    have settled : hasOutcome (sample.alone samplePod (steadyWorld addressedBody "ok")
        () "a") = true := by
      decide +kernel
    have unfaulted : ∀ artifactId ∈ ["a", "a"], ∀ fault, sample.alone samplePod
        (steadyWorld addressedBody "ok") () artifactId ≠ .error (.fault fault) := by
      intro artifactId listed fault ended
      obtain rfl : artifactId = "a" := by simpa using listed
      rw [ended] at settled
      cases settled
    obtain ⟨outcomes, same, gathered⟩ := free.outcomes unfaulted
    exact ⟨outcomes, gathered, by simpa using (congrArg List.length same).symm⟩
  · have free := verifyArtifacts_order_free sample samplePod ["a"]
      (steady_steadyWorld unaddressedBody "ok") ()
    have commandless : ((sample.verifyArtifact samplePod "a").events
        (steadyWorld unaddressedBody "ok") ()).all
          (fun event => !(event.call matches .command _)) = true := by
      decide +kernel
    refine free.unaffected _ () (fun call => (call matches .command _) = true)
      (fun call exchange spared => ?_) "a" fun event happened => ?_
    · cases call with
      | request request => exact fun _ _ => rfl
      | command command => exact absurd rfl spared
      | _ => cases exchange
    · simpa using List.all_eq_true.mp commandless event happened

end Scenario.Verifier

end ArtifactAudit
