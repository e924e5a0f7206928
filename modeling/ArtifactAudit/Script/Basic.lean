import ArtifactAudit.Cluster.Command
import ArtifactAudit.Logging.Setup
import ArtifactAudit.Platform.Exchange
import ArtifactAudit.Scenario.State

/-!
# Scripts

A script is a procedure whose every contact with the outside is a call that some
world answers. It is a tree: a leaf holds a result or the reason for stopping
early, and a node holds a call and what follows each answer to it. Nothing else
reaches the outside, so a statement about all answers is a statement about all
worlds.

Scripts are put one after another (`bind_assoc`), and `recover` handles failures, but
never faults.
-/

set_option autoImplicit false

namespace ArtifactAudit

/-- What a path leads to. -/
inductive FileStatus where
  /-- Nothing. -/
  | missing
  | directory
  | file
  /-- A fault of the lookup. -/
  | fault (fault : Fault)

/-- What reading a file gives. -/
inductive FileAnswer where
  | content (bytes : List UInt8)
  /-- The reason why it cannot be read. -/
  | unreadable (error : SystemError)
  /-- A fault of the path. -/
  | fault (fault : Fault)

/-- A contact with the outside. -/
inductive Call where
  /-- Sends a request to the platform. -/
  | request (request : Platform.Request)
  /-- Runs a command. -/
  | command (command : Cluster.Command)
  /-- Reads a file. -/
  | content (path : String)
  /-- Looks a path up. -/
  | status (path : String)
  /-- Reads the clock, in seconds. -/
  | clock
  /-- Waits for some seconds. The system counts a pause from the reading of its own clock and
  refuses one that it cannot count to the end. -/
  | sleep (seconds : Float)
  | setUpLog (setup : Logging.Setup)
  /-- Writes a line to the log. -/
  | log (line : Logging.Line)
  /-- Announces that the scenario has entered a state. -/
  | enter (state : Scenario.State)

abbrev Call.Answer : Call → Type
  | .request _ => Platform.Answer
  | .command _ => Cluster.CommandAnswer
  | .content _ => FileAnswer
  | .status _ => FileStatus
  | .clock => Float
  | .sleep _ => Except Fault Unit
  | .setUpLog _ => Except Logging.Setup.Refused Unit
  | .log _ | .enter _ => Unit

/-- A procedure with calls to the outside. -/
inductive Script (α : Type) : Type where
  /-- Ends with a result. -/
  | done (value : α)
  /-- Stops early. -/
  | halt (reason : Halt)
  /-- Makes a call and goes on with the answer. -/
  | ask (call : Call) (next : call.Answer → Script α)

namespace Script

variable {α β γ : Type}

/-- Goes on with the result of a script. -/
def bind : Script α → (α → Script β) → Script β
  | done value, next => next value
  | halt reason, _ => halt reason
  | ask call answer, next => ask call fun reply => (answer reply).bind next

instance : Monad Script where
  pure := done
  bind := bind

/-- Makes a call. -/
def perform (call : Call) : Script call.Answer :=
  ask call done

/-- Stops with a failure. -/
def fail (failure : Failure) : Script α :=
  halt (.failure failure)

/-- Stops with a fault. -/
def crash (fault : Fault) : Script α :=
  halt (.fault fault)

/-- The result of a script or the reason why it stopped, as a result. -/
def settle : Script α → Script (Except Halt α)
  | done value => done (.ok value)
  | halt reason => done (.error reason)
  | ask call next => ask call fun reply => (next reply).settle

/-- The result of a script or its failure, as a result. Faults stay faults. -/
def attempt (script : Script α) : Script (Except Failure α) :=
  script.settle.bind fun
    | .ok value => done (.ok value)
    | .error (.failure failure) => done (.error failure)
    | .error (.fault fault) => crash fault

/-- Handles the failures of a script. Faults are not handled. -/
def recover (script : Script α) (handler : Failure → Script α) : Script α :=
  script.attempt.bind fun
    | .ok value => done value
    | .error failure => handler failure

/-- The result of a computation that may fail. -/
def ofExcept : Except Failure α → Script α
  | .ok value => done value
  | .error failure => fail failure

/-- The result of a computation that a fault may stop. -/
def orCrash : Except Fault α → Script α
  | .ok value => done value
  | .error fault => crash fault

/-- The result that was settled before. -/
def ofSettled : Except Halt α → Script α
  | .ok value => done value
  | .error reason => halt reason

/-- Writes a line to the log. -/
def log (level : Logging.Level) (text : String) : Script Unit :=
  perform (.log ⟨level, text⟩)

/-- How many nanoseconds a pause is shorter than. -/
def pauseLimit : Float := 9223372036854775808

/-- Waits. A length that is no length of time is a fault, and so is one that is
too great in either direction. A shorter pause may still run past the last reading of the
clock of the system, which then refuses it. -/
def sleep (seconds : Float) : Script Unit :=
  let nanoseconds := seconds * 1000000000
  if seconds.isNaN then crash (.value "Invalid value NaN (not a number)")
  else if nanoseconds < -pauseLimit || pauseLimit ≤ nanoseconds then crash .overflow
  else if seconds < 0 then crash (.value "sleep length must be non-negative")
  else ask (.sleep seconds) orCrash

theorem bind_assoc (script : Script α) (f : α → Script β) (g : β → Script γ) :
    (script.bind f).bind g = script.bind fun value => (f value).bind g := by
  induction script with
  | done value => rfl
  | halt reason => rfl
  | ask call next ih => simp only [bind, ih]

/-- Follows a script through a world that answers each call and changes with it. -/
def play {σ : Type} (answer : (call : Call) → σ → call.Answer × σ) :
    Script α → σ → Except Halt α × σ
  | done value, world => (.ok value, world)
  | halt reason, world => (.error reason, world)
  | ask call next, world =>
    let (reply, world) := answer call world
    (next reply).play answer world

end Script

end ArtifactAudit
