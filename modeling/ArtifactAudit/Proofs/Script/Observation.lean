import ArtifactAudit.Proofs.Script.Course

/-!
# What is observed of a run

Of the events of a run a statement often needs only a part: the requests, the pauses, or
all but the lines in the log. Every script has a run (`exists_runs`), and in a world every
answer is one that the world gives (`answered_of_mem_events`), so what holds of all runs
is neither empty nor about answers that nobody gives.
-/

set_option autoImplicit false

namespace ArtifactAudit

/-! ## Parts of the events -/

/-- The requests among some events, in order. -/
def requestsOf (events : List Event) : List Platform.Request :=
  events.filterMap fun
    | ⟨.request request, _⟩ => some request
    | _ => none

/-- The pauses among some events, in order. -/
def pausesOf (events : List Event) : List Float :=
  events.filterMap fun
    | ⟨.sleep seconds, _⟩ => some seconds
    | _ => none

/-- Whether an event is a line in the log. -/
def Event.isLine : Event → Bool
  | ⟨.log _, _⟩ => true
  | _ => false

/-- The events but for lines in the log. -/
def unlogged (events : List Event) : List Event :=
  events.filter fun event => !event.isLine

@[simp] theorem requestsOf_append (before after : List Event) :
    requestsOf (before ++ after) = requestsOf before ++ requestsOf after :=
  List.filterMap_append

@[simp] theorem pausesOf_append (before after : List Event) :
    pausesOf (before ++ after) = pausesOf before ++ pausesOf after :=
  List.filterMap_append

@[simp] theorem unlogged_nil : unlogged [] = [] := rfl

@[simp] theorem unlogged_append (before after : List Event) :
    unlogged (before ++ after) = unlogged before ++ unlogged after :=
  List.filter_append before after

@[simp] theorem unlogged_line {level : Logging.Level} {text : String} (events : List Event) :
    unlogged (⟨.log ⟨level, text⟩, ()⟩ :: events) = unlogged events :=
  rfl

/-- A request that is seen is an event. -/
theorem mem_of_request_mem_actsOf {events : List Event} {request : Platform.Request}
    {answer : Platform.Answer} (seen : .request request answer ∈ actsOf events) :
    ⟨.request request, answer⟩ ∈ events := by
  obtain ⟨⟨call, reply⟩, happened, shown⟩ := List.mem_filterMap.mp seen
  cases call <;> cases shown
  exact happened

/-! ## Runs -/

theorem Call.nonempty_answer (call : Call) : Nonempty call.Answer := by
  cases call with
  | request => exact ⟨.failed ""⟩
  | command => exact ⟨.timedOut⟩
  | content => exact ⟨.content []⟩
  | status => exact ⟨.missing⟩
  | clock => exact ⟨(0 : Float)⟩
  | sleep | setUpLog => exact ⟨.ok ()⟩
  | log | enter => exact ⟨()⟩

namespace Script

variable {α σ : Type}

/-- Every script can be run. -/
theorem exists_runs (script : Script α) : ∃ events result, script.Runs events result := by
  induction script with
  | done value => exact ⟨[], _, .done value⟩
  | halt reason => exact ⟨[], _, .halt reason⟩
  | ask call next ih =>
    obtain ⟨answer⟩ := call.nonempty_answer
    obtain ⟨events, result, run⟩ := ih answer
    exact ⟨_, result, .ask answer run⟩

/-- What is answered in a world is what the world answers. -/
theorem answered_of_mem_events {world : World σ} {script : Script α} {start : σ} {event : Event}
    (happened : event ∈ script.events world start) :
    ∃ state, event.answer = (world event.call state).1 := by
  induction script generalizing start with
  | done value => cases happened
  | halt reason => cases happened
  | ask call next ih =>
    rcases List.mem_cons.mp happened with rfl | later
    · exact ⟨start, rfl⟩
    · exact ih _ later

/-- A line in the log comes in front of what follows. -/
theorem runs_log_bind_iff {level : Logging.Level} {text : String} {next : Unit → Script α}
    {events : List Event} {result : Except Halt α} :
    ((Script.log level text).bind next).Runs events result ↔
      ∃ rest, events = ⟨.log ⟨level, text⟩, ()⟩ :: rest ∧ (next ()).Runs rest result := by
  refine runs_ask_iff.trans ?_
  constructor
  · rintro ⟨_, rest, same, run⟩
    exact ⟨rest, same, run⟩
  · rintro ⟨rest, same, run⟩
    exact ⟨(), rest, same, run⟩

/-- Whether a script, whatever it is answered, leaves one request, and that of a kind. -/
def Sends (script : Script α) (kind : Platform.Request → Prop) : Prop :=
  script.Follows fun acts _ => ∃ request answer, acts = [.request request answer] ∧ kind request

/-- If a script always leaves the same request, what it sends is of the kinds of that one. -/
theorem Sends.iff_of_same {script : Script α} {request : Platform.Request}
    (same : script.Sends (· = request)) {kind : Platform.Request → Prop} :
    script.Sends kind ↔ kind request := by
  constructor
  · intro sends
    obtain ⟨events, result, run⟩ := script.exists_runs
    obtain ⟨_, _, shown, rfl⟩ := same events result run
    obtain ⟨_, _, again, holds⟩ := sends events result run
    rw [shown] at again
    cases again
    exact holds
  · intro holds events result run
    obtain ⟨_, answer, shown, rfl⟩ := same events result run
    exact ⟨_, answer, shown, holds⟩

end Script

/-! ## Pauses -/

/-- Whether a length of time can be asked for: it is a number, not negative, and short
enough to be counted. -/
structure IsPause (seconds : Float) : Prop where
  number : seconds.isNaN = false
  countable : (seconds * 1000000000 < -Script.pauseLimit ||
    Script.pauseLimit ≤ seconds * 1000000000) = false
  forward : ¬ seconds < 0

/-- Nothing but the system refuses a pause that can be asked for. -/
theorem IsPause.sleep_eq {seconds : Float} (pause : IsPause seconds) :
    Script.sleep seconds = .ask (.sleep seconds) Script.orCrash := by
  simp only [Script.sleep, pause.number, pause.countable, if_neg pause.forward, Bool.false_eq_true,
    if_false]

/-- Whether none of the pauses among some events was refused. -/
def Rested (events : List Event) : Prop :=
  ∀ seconds fault, ⟨.sleep seconds, .error fault⟩ ∉ events

theorem Rested.mono {events others : List Event} (rested : Rested events)
    (within : others ⊆ events) : Rested others :=
  fun seconds fault among => rested seconds fault (within among)

/-- In a world that grants every pause none is refused. -/
theorem rested_of_grants {α σ : Type} {world : World σ}
    (grants : ∀ seconds state, (world (.sleep seconds) state).1 = .ok ()) (script : Script α)
    (start : σ) : Rested (script.events world start) := by
  intro seconds fault happened
  obtain ⟨state, same⟩ := Script.answered_of_mem_events happened
  rw [show (world (.sleep seconds) state).1 = _ from grants seconds state] at same
  cases same

/-! ## Worlds -/

/-- A world with no files in it that answers requests and commands by one rule each. -/
def replying {σ : Type} (answer : Platform.Request → Platform.Answer)
    (finish : Cluster.Command → Cluster.CommandAnswer) : World σ
  | .request request, state => (answer request, state)
  | .command command, state => (finish command, state)
  | .content _, state => (.content [], state)
  | .status _, state => (.missing, state)
  | .clock, state => (0, state)
  | .sleep _, state | .setUpLog _, state => (.ok (), state)
  | .log _, state | .enter _, state => ((), state)

/-- A world that gives answers and readings of the clock in turn. Its state is the number
of those that were given, and what comes of a pause goes by the number of answers before it. -/
def inTurn (answers : Nat → Platform.Answer) (readings : Nat → Float)
    (rests : Nat → Except Fault Unit := fun _ => .ok ()) : World (Nat × Nat)
  | .request _, (sent, looks) => (answers sent, (sent + 1, looks))
  | .clock, (sent, looks) => (readings looks, (sent, looks + 1))
  | .sleep _, (sent, looks) => (rests sent, (sent, looks))
  | .command _, state => (.timedOut, state)
  | .content _, state => (.content [], state)
  | .status _, state => (.missing, state)
  | .setUpLog _, state => (.ok (), state)
  | .log _, state | .enter _, state => ((), state)

end ArtifactAudit
