import ArtifactAudit.Script.Basic

/-!
# Runs of scripts

A run of a script is the list of its calls, each with the answer it got, and what
the script ended with. A script has a run for every way in which its calls can be
answered, so a statement about all its runs is a statement about all worlds
(`runs_play`). A run of a sequence is a run of its first part, followed by one of
its second part if the first part gave a value (`runs_bind_iff`).

Of a run others see only some calls: the files it reads, its requests and its
commands, and the states it announces. These are its acts.
-/

set_option autoImplicit false

namespace ArtifactAudit

/-! ## Events and acts -/

/-- A call and the answer it got. -/
structure Event where
  call : Call
  answer : call.Answer

/-- A call that others see, with the answer it got. -/
inductive Act where
  | file (path : String) (answer : FileAnswer)
  | request (request : Platform.Request) (answer : Platform.Answer)
  | command (command : Cluster.Command) (answer : Cluster.CommandAnswer)
  /-- The scenario announced that it entered a state. -/
  | announcement (state : Scenario.State)

/-- What others see of an event, if they see it. -/
def Event.act? : Event → Option Act
  | ⟨.content path, answer⟩ => some (.file path answer)
  | ⟨.request request, answer⟩ => some (.request request answer)
  | ⟨.command command, answer⟩ => some (.command command answer)
  | ⟨.enter state, _⟩ => some (.announcement state)
  | _ => none

/-- The acts among some events, in order. -/
def actsOf (events : List Event) : List Act :=
  events.filterMap Event.act?

/-- The state that an act announces. -/
def Act.state? : Act → Option Scenario.State
  | announcement state => some state
  | _ => none

/-- The states that some acts announce, in order. -/
def statesOf (acts : List Act) : List Scenario.State :=
  acts.filterMap Act.state?

/-- The acts but for announcements: what is asked of others. -/
def callsOf (acts : List Act) : List Act :=
  acts.filter fun act => act.state?.isNone

@[simp] theorem actsOf_nil : actsOf [] = [] := rfl

@[simp] theorem actsOf_append (before after : List Event) :
    actsOf (before ++ after) = actsOf before ++ actsOf after :=
  List.filterMap_append

@[simp] theorem statesOf_nil : statesOf [] = [] := rfl

@[simp] theorem statesOf_append (before after : List Act) :
    statesOf (before ++ after) = statesOf before ++ statesOf after :=
  List.filterMap_append

@[simp] theorem callsOf_append (before after : List Act) :
    callsOf (before ++ after) = callsOf before ++ callsOf after :=
  List.filter_append before after

/-- An announcement is no call. -/
@[simp] theorem callsOf_announced (acts : List Act) (state : Scenario.State) :
    callsOf (acts ++ [.announcement state]) = callsOf acts := by
  rw [callsOf_append]
  exact List.append_nil _

/-- Without announcements all acts are calls. -/
theorem callsOf_of_silent {acts : List Act} (silent : statesOf acts = []) :
    callsOf acts = acts := by
  refine List.filter_eq_self.mpr fun act member => ?_
  rw [List.filterMap_eq_nil_iff.mp silent act member]
  rfl

/-- A world: it answers each call and changes with it. -/
abbrev World (σ : Type) : Type :=
  (call : Call) → σ → call.Answer × σ

namespace Script

variable {α β σ : Type}

/-! ## Runs -/

/-- The runs of a script: the events and what the script ended with. A call may get
any answer, and the run goes on with it. -/
inductive Runs : Script α → List Event → Except Halt α → Prop where
  | done (value : α) : Runs (done value) [] (.ok value)
  | halt (reason : Halt) : Runs (halt reason) [] (.error reason)
  | ask {call : Call} {next : call.Answer → Script α} (answer : call.Answer)
      {events : List Event} {result : Except Halt α} :
      Runs (next answer) events result → Runs (ask call next) (⟨call, answer⟩ :: events) result

def events (world : World σ) : Script α → σ → List Event
  | done _, _ => []
  | halt _, _ => []
  | ask call next, start =>
    ⟨call, (world call start).1⟩ :: (next (world call start).1).events world (world call start).2

/-- What happens in a world is a run. -/
theorem runs_play (world : World σ) (script : Script α) (start : σ) :
    script.Runs (script.events world start) (script.play world start).1 := by
  induction script generalizing start with
  | done value => exact .done value
  | halt reason => exact .halt reason
  | ask call next ih => exact .ask _ (ih _ _)

theorem runs_done_iff {value : α} {events : List Event} {result : Except Halt α} :
    (done value).Runs events result ↔ events = [] ∧ result = .ok value := by
  constructor
  · intro run
    cases run
    exact ⟨rfl, rfl⟩
  · rintro ⟨rfl, rfl⟩
    exact .done value

theorem runs_halt_iff {reason : Halt} {events : List Event} {result : Except Halt α} :
    (halt reason : Script α).Runs events result ↔ events = [] ∧ result = .error reason := by
  constructor
  · intro run
    cases run
    exact ⟨rfl, rfl⟩
  · rintro ⟨rfl, rfl⟩
    exact .halt reason

theorem runs_ask_iff {call : Call} {next : call.Answer → Script α} {events : List Event}
    {result : Except Halt α} :
    (ask call next).Runs events result ↔
      ∃ answer rest, events = ⟨call, answer⟩ :: rest ∧ (next answer).Runs rest result := by
  constructor
  · intro run
    cases run with
    | ask answer rest => exact ⟨answer, _, rfl, rest⟩
  · rintro ⟨answer, rest, rfl, run⟩
    exact .ask answer run

/-- Performing a call is that call alone, and its answer is the result. -/
theorem runs_perform_iff {call : Call} {events : List Event} {result : Except Halt call.Answer} :
    (perform call).Runs events result ↔
      ∃ answer, events = [⟨call, answer⟩] ∧ result = .ok answer := by
  simp only [perform, runs_ask_iff, runs_done_iff]
  constructor
  · rintro ⟨answer, _, rfl, rfl, rfl⟩
    exact ⟨answer, rfl, rfl⟩
  · rintro ⟨answer, rfl, rfl⟩
    exact ⟨answer, [], rfl, rfl, rfl⟩

/-- A sequence goes through its first part, and through its second part if the
first one gave a value. -/
theorem runs_bind_iff {script : Script α} {next : α → Script β} {events : List Event}
    {result : Except Halt β} :
    (script.bind next).Runs events result ↔
      (∃ value before after, events = before ++ after ∧ script.Runs before (.ok value) ∧
        (next value).Runs after result) ∨
      ∃ reason, result = .error reason ∧ script.Runs events (.error reason) := by
  induction script generalizing events with
  | done value =>
    simp only [bind, runs_done_iff, reduceCtorEq, and_false, exists_false, or_false]
    constructor
    · intro run
      exact ⟨value, [], events, rfl, ⟨rfl, rfl⟩, run⟩
    · rintro ⟨_, _, after, rfl, ⟨rfl, same⟩, run⟩
      cases same
      exact run
  | halt reason =>
    simp only [bind, runs_halt_iff, reduceCtorEq, and_false, false_and, exists_false, false_or]
    constructor
    · rintro ⟨rfl, rfl⟩
      exact ⟨reason, rfl, rfl, rfl⟩
    · rintro ⟨_, rfl, rfl, same⟩
      cases same
      exact ⟨rfl, rfl⟩
  | ask call follow ih =>
    simp only [bind, runs_ask_iff, ih]
    constructor
    · rintro ⟨answer, rest, rfl, ⟨value, before, after, rfl, first, second⟩ | ⟨reason, rfl, first⟩⟩
      · exact .inl
          ⟨value, ⟨call, answer⟩ :: before, after, rfl, ⟨answer, before, rfl, first⟩, second⟩
      · exact .inr ⟨reason, rfl, answer, rest, rfl, first⟩
    · rintro (⟨value, _, after, rfl, ⟨answer, before, rfl, first⟩, second⟩ |
        ⟨reason, rfl, answer, rest, rfl, first⟩)
      · exact ⟨answer, before ++ after, rfl, .inl ⟨value, before, after, rfl, first, second⟩⟩
      · exact ⟨answer, rest, rfl, .inr ⟨reason, rfl, first⟩⟩

/-- Settling keeps the events and turns every end into a result. -/
theorem runs_settle_iff {script : Script α} {events : List Event}
    {result : Except Halt (Except Halt α)} :
    script.settle.Runs events result ↔
      ∃ settled, result = .ok settled ∧ script.Runs events settled := by
  induction script generalizing events with
  | done value =>
    simp only [settle, runs_done_iff]
    constructor
    · rintro ⟨rfl, rfl⟩
      exact ⟨_, rfl, rfl, rfl⟩
    · rintro ⟨_, rfl, rfl, rfl⟩
      exact ⟨rfl, rfl⟩
  | halt reason =>
    simp only [settle, runs_done_iff, runs_halt_iff]
    constructor
    · rintro ⟨rfl, rfl⟩
      exact ⟨_, rfl, rfl, rfl⟩
    · rintro ⟨_, rfl, rfl, rfl⟩
      exact ⟨rfl, rfl⟩
  | ask call next ih =>
    simp only [settle, runs_ask_iff, ih]
    constructor
    · rintro ⟨answer, rest, rfl, settled, rfl, run⟩
      exact ⟨settled, rfl, answer, rest, rfl, run⟩
    · rintro ⟨settled, rfl, answer, rest, rfl, run⟩
      exact ⟨answer, rest, rfl, settled, rfl, run⟩

end Script

end ArtifactAudit
