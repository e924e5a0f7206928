import ArtifactAudit.Proofs.Script.Runs

/-!
# Courses of scripts

A course says which acts a script may leave behind, and with which end. Courses
are put together as scripts are: one after another (`Next`), with failures as
results (`Attempted`), and with failures handled (`Recovered`). A script follows a
course when all its runs are of that kind, and each way of putting scripts
together keeps that.
-/

set_option autoImplicit false

namespace ArtifactAudit

/-- What may be seen of a script, and what it may end with. -/
abbrev Course (α : Type) : Type :=
  List Act → Except Halt α → Prop

namespace Course

variable {α β : Type}

/-- Nothing is seen, and the end is known. -/
def ends (result : Except Halt α) : Course α :=
  fun acts found => acts = [] ∧ found = result

/-- One course, and another after it if the first gave a value. -/
inductive Next (first : Course α) (second : α → Course β) : List Act → Except Halt β → Prop where
  | stops {acts : List Act} {reason : Halt} :
      first acts (.error reason) → Next first second acts (.error reason)
  | goes {before after : List Act} {value : α} {result : Except Halt β} :
      first before (.ok value) → second value after result →
        Next first second (before ++ after) result

/-- A course whose failures are results. -/
inductive Attempted (course : Course α) : List Act → Except Halt (Except Failure α) → Prop where
  | gave {acts : List Act} {value : α} :
      course acts (.ok value) → Attempted course acts (.ok (.ok value))
  | failed {acts : List Act} {failure : Failure} :
      course acts (.error (.failure failure)) → Attempted course acts (.ok (.error failure))
  | broke {acts : List Act} {fault : Fault} :
      course acts (.error (.fault fault)) → Attempted course acts (.error (.fault fault))

/-- A course whose failures are handled. -/
inductive Recovered (course : Course α) (handler : Failure → Course α) :
    List Act → Except Halt α → Prop where
  | gave {acts : List Act} {value : α} :
      course acts (.ok value) → Recovered course handler acts (.ok value)
  | handled {before after : List Act} {failure : Failure} {result : Except Halt α} :
      course before (.error (.failure failure)) → handler failure after result →
        Recovered course handler (before ++ after) result
  | broke {acts : List Act} {fault : Fault} :
      course acts (.error (.fault fault)) → Recovered course handler acts (.error (.fault fault))

/-- After a course that always gives a value the second one follows. -/
theorem Next.of_giving {first : Course α} {second : α → Course β} {acts : List Act}
    {result : Except Halt β} (next : Next first second acts result)
    (giving : ∀ acts reason, ¬ first acts (.error reason)) :
    ∃ before after value, acts = before ++ after ∧ first before (.ok value) ∧
      second value after result := by
  cases next with
  | stops stopped => exact absurd stopped (giving _ _)
  | goes gave rest => exact ⟨_, _, _, rfl, gave, rest⟩

end Course

namespace Script

variable {α β : Type}

/-- Whether all runs of a script are of a course. -/
def Follows (script : Script α) (course : Course α) : Prop :=
  ∀ events result, script.Runs events result → course (actsOf events) result

/-- The course of a script itself. -/
def course (script : Script α) : Course α :=
  fun acts result => ∃ events, actsOf events = acts ∧ script.Runs events result

namespace Follows

theorem self (script : Script α) : script.Follows script.course :=
  fun events _ run => ⟨events, rfl, run⟩

theorem mono {script : Script α} {course other : Course α} (follows : script.Follows course)
    (weaker : ∀ acts result, course acts result → other acts result) : script.Follows other :=
  fun events result run => weaker _ _ (follows events result run)

theorem done {course : Course α} {value : α} (ended : course [] (.ok value)) :
    (Script.done value).Follows course := by
  intro events result run
  obtain ⟨rfl, rfl⟩ := runs_done_iff.mp run
  exact ended

/-- A result is the end. -/
theorem returns (value : α) : (Script.done value).Follows (Course.ends (.ok value)) :=
  done ⟨rfl, rfl⟩

theorem halt {course : Course α} {reason : Halt} (ended : course [] (.error reason)) :
    (Script.halt reason).Follows course := by
  intro events result run
  obtain ⟨rfl, rfl⟩ := runs_halt_iff.mp run
  exact ended

theorem bind {script : Script α} {next : α → Script β} {first : Course α}
    {second : α → Course β} (former : script.Follows first)
    (latter : ∀ value, (next value).Follows (second value)) :
    (script.bind next).Follows (Course.Next first second) := by
  intro events result run
  rcases runs_bind_iff.mp run with ⟨value, before, after, rfl, gave, rest⟩ | ⟨reason, rfl, stopped⟩
  · rw [actsOf_append]
    exact .goes (former _ _ gave) (latter value _ _ rest)
  · exact .stops (former _ _ stopped)

/-- The value of a script may be dropped before another goes on. -/
theorem bind_discard {script : Script α} {next : Unit → Script β} {first : Course α}
    {second : Course β} (former : script.Follows first)
    (latter : (next ()).Follows second) :
    ((discard script).bind next).Follows (Course.Next first fun _ => second) := by
  change ((script.bind fun _ => .done ()).bind next).Follows _
  rw [bind_assoc]
  exact bind former fun _ => latter

/-- A script that leaves no acts and cannot fail is not seen in front of another. -/
theorem after_silent {script : Script α} {next : α → Script β} {course : Course β}
    (silent : script.Follows fun acts result => acts = [] ∧ ∃ value, result = .ok value)
    (latter : ∀ value, (next value).Follows course) : (script.bind next).Follows course := by
  refine (bind silent latter).mono fun acts result follows => ?_
  obtain ⟨_, after, _, rfl, ⟨rfl, _⟩, rest⟩ := follows.of_giving (by simp)
  exact rest

theorem log {level : Logging.Level} {text : String} :
    (Script.log level text).Follows fun acts result => acts = [] ∧ ∃ value, result = .ok value := by
  intro events result run
  obtain ⟨value, rfl, rfl⟩ := runs_perform_iff.mp run
  exact ⟨rfl, value, rfl⟩

/-- A log line is not seen in front of what follows. -/
theorem after_log {level : Logging.Level} {text : String} {next : Unit → Script β}
    {course : Course β} (latter : ∀ value, (next value).Follows course) :
    ((Script.log level text).bind next).Follows course :=
  after_silent log latter

/-- Neither is a look at the clock. -/
theorem after_clock {next : Float → Script β} {course : Course β}
    (latter : ∀ value, (next value).Follows course) :
    ((perform .clock).bind next).Follows course := by
  refine after_silent (fun events result run => ?_) latter
  obtain ⟨value, rfl, rfl⟩ := runs_perform_iff.mp run
  exact ⟨rfl, value, rfl⟩

/-- An announcement is seen. -/
theorem announce {state : Scenario.State} :
    (perform (.enter state)).Follows fun acts result =>
      acts = [.announcement state] ∧ result = .ok () := by
  intro events result run
  obtain ⟨_, rfl, rfl⟩ := runs_perform_iff.mp run
  exact ⟨rfl, rfl⟩

/-- A pause leaves no acts, and no failure comes of it. -/
theorem sleep {seconds : Float} :
    (Script.sleep seconds).Follows fun acts result =>
      acts = [] ∧ ∀ failure, result ≠ .error (.failure failure) := by
  have crashes : ∀ fault : Fault, (Script.crash fault : Script Unit).Follows fun acts result =>
      acts = [] ∧ ∀ failure, result ≠ .error (.failure failure) :=
    fun fault => halt ⟨rfl, by simp⟩
  simp only [Script.sleep]
  split
  · exact crashes _
  · split
    · exact crashes _
    · split
      · exact crashes _
      · intro events result run
        obtain ⟨answer, _, rfl, rest⟩ := runs_ask_iff.mp run
        match answer with
        | .ok () =>
          obtain ⟨rfl, rfl⟩ := runs_done_iff.mp rest
          exact ⟨rfl, by simp⟩
        | .error fault =>
          obtain ⟨rfl, rfl⟩ := runs_halt_iff.mp rest
          exact ⟨rfl, by simp⟩

/-- A pause is not seen in front of what follows, unless it is a fault. -/
theorem after_sleep {seconds : Float} {next : Unit → Script β} {course : Course β}
    (faulty : ∀ fault, course [] (.error (.fault fault)))
    (latter : ∀ value, (next value).Follows course) :
    ((Script.sleep seconds).bind next).Follows course := by
  refine (bind sleep latter).mono fun acts result follows => ?_
  cases follows with
  | stops stopped =>
    rename_i reason
    obtain ⟨rfl, unfailing⟩ := stopped
    match reason with
    | .fault fault => exact faulty fault
    | .failure failure => exact absurd rfl (unfailing failure)
  | goes gave rest =>
    obtain ⟨rfl, _⟩ := gave
    exact rest

theorem ofExcept (result : Except Failure α) :
    (Script.ofExcept result).Follows (Course.ends (result.mapError .failure)) := by
  cases result with
  | ok value => exact done ⟨rfl, rfl⟩
  | error failure => exact halt ⟨rfl, rfl⟩

theorem ofSettled (result : Except Halt α) :
    (Script.ofSettled result).Follows (Course.ends result) := by
  cases result with
  | ok value => exact done ⟨rfl, rfl⟩
  | error reason => exact halt ⟨rfl, rfl⟩

theorem settle {script : Script α} {course : Course α} (follows : script.Follows course) :
    script.settle.Follows fun acts result =>
      ∃ settled, result = .ok settled ∧ course acts settled := by
  intro events result run
  obtain ⟨settled, rfl, settles⟩ := runs_settle_iff.mp run
  exact ⟨settled, rfl, follows _ _ settles⟩

theorem attempt {script : Script α} {course : Course α} (follows : script.Follows course) :
    script.attempt.Follows (Course.Attempted course) := by
  intro events result run
  rcases runs_bind_iff.mp run with ⟨settled, before, after, rfl, settles, rest⟩ |
    ⟨reason, _, settles⟩
  · obtain ⟨_, same, runs⟩ := runs_settle_iff.mp settles
    cases same
    have kept := follows _ _ runs
    match settled with
    | .ok value =>
      obtain ⟨rfl, rfl⟩ := runs_done_iff.mp rest
      simpa using .gave kept
    | .error (.failure failure) =>
      obtain ⟨rfl, rfl⟩ := runs_done_iff.mp rest
      simpa using .failed kept
    | .error (.fault fault) =>
      obtain ⟨rfl, rfl⟩ := runs_halt_iff.mp rest
      simpa using .broke kept
  · obtain ⟨_, impossible, _⟩ := runs_settle_iff.mp settles
    cases impossible

theorem recover {script : Script α} {handler : Failure → Script α} {course : Course α}
    {handled : Failure → Course α} (follows : script.Follows course)
    (handles : ∀ failure, (handler failure).Follows (handled failure)) :
    (script.recover handler).Follows (Course.Recovered course handled) := by
  intro events result run
  rcases runs_bind_iff.mp run with ⟨attempted, before, after, rfl, attempts, rest⟩ |
    ⟨reason, rfl, attempts⟩
  · have kept := follows.attempt _ _ attempts
    rw [actsOf_append]
    match attempted with
    | .ok value =>
      obtain ⟨rfl, rfl⟩ := runs_done_iff.mp rest
      cases kept with
      | gave gave => simpa using .gave gave
    | .error failure =>
      cases kept with
      | failed failed => exact .handled failed (handles failure _ _ rest)
  · cases follows.attempt _ _ attempts with
    | broke broke => exact .broke broke

end Follows

end Script

end ArtifactAudit
