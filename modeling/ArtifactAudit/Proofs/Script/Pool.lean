import Mathlib.Algebra.Ring.Nat
import Mathlib.Logic.Relation
import ArtifactAudit.Proofs.Script.Steady

/-!
# Scripts at a time

A pool holds scripts that some workers play in the same world. A script waits until a
worker takes it up, and at every step some worker makes the next call of its script or
finds that the script has ended. The calls of different scripts may follow one another
in any order; what a script ends with stays at the place of the script.

If the world is steady at all calls of the scripts, then no order matters: however the
workers proceed they come to an end, and each script ends as it does when it is played
alone (`Pool.settles`).
-/

set_option autoImplicit false

namespace ArtifactAudit

variable {α σ : Type}

/-- A script in a pool. -/
inductive Task (α : Type) where
  /-- No worker has taken the script up. -/
  | waiting (script : Script α)
  /-- A worker plays the script; this is what is left of it. -/
  | running (script : Script α)
  | settled (result : Except Halt α)

/-- Scripts that are played at a time, and the state of the world they are played in. -/
structure Pool (σ α : Type) where
  tasks : List (Task α)
  state : σ

namespace Task

def isRunning : Task α → Bool
  | running _ => true
  | _ => false

/-- What a worker does next with its script. -/
inductive Works (world : World σ) : Task α → σ → Task α → σ → Prop where
  | asks (call : Call) (next : call.Answer → Script α) (state : σ) :
      Works world (.running (.ask call next)) state (.running (next (world call state).1))
        (world call state).2
  | gives (value : α) (state : σ) :
      Works world (.running (.done value)) state (.settled (.ok value)) state
  | stops (reason : Halt) (state : σ) :
      Works world (.running (.halt reason)) state (.settled (.error reason)) state

/-- Whether the calls that are left to make are of some kind. -/
def Makes (kind : Call → Prop) : Task α → Prop
  | waiting script | running script => script.Makes kind
  | settled _ => True

/-- What a task ends with when it is played alone. -/
def ending (world : World σ) (start : σ) : Task α → Except Halt α
  | waiting script | running script => (script.play world start).1
  | settled result => result

/-- How many steps are left of a task. -/
def weight (world : World σ) (start : σ) : Task α → Nat
  | waiting script => (script.events world start).length + 2
  | running script => (script.events world start).length + 1
  | settled _ => 0

/-- A step of a worker leaves steady calls to make, keeps what the task ends with, and
leaves fewer steps. -/
theorem Works.keeps {world : World σ} {task next : Task α} {state reached : σ} (start : σ)
    (works : Works world task state next reached) (makes : task.Makes world.SteadyAt) :
    next.Makes world.SteadyAt ∧ next.ending world start = task.ending world start ∧
      next.weight world start < task.weight world start := by
  cases works with
  | asks call follow =>
    obtain ⟨steady, rest⟩ := Script.Makes.of_ask makes
    have same : (world call state).1 = (world call start).1 := steady state start
    have played := Script.play_eq_of_makes (rest (world call start).1) start (world call start).2
    refine ⟨rest _, ?_, ?_⟩
    · simp only [ending, Script.play, same, played.1]
    · simp only [weight, Script.events, same, played.2, List.length_cons]
      omega
  | gives value => exact ⟨trivial, rfl, Nat.succ_pos _⟩
  | stops reason => exact ⟨trivial, rfl, Nat.succ_pos _⟩

/-- A running task can go on. -/
theorem exists_works (world : World σ) (script : Script α) (state : σ) :
    ∃ next reached, Works world (.running script) state next reached := by
  cases script with
  | done value => exact ⟨_, _, .gives value state⟩
  | halt reason => exact ⟨_, _, .stops reason state⟩
  | ask call next => exact ⟨_, _, .asks call next state⟩

end Task

namespace Pool

/-- Some scripts, none of which is taken up. -/
def ofScripts (scripts : List (Script α)) (state : σ) : Pool σ α :=
  { tasks := scripts.map .waiting, state }

/-- A step of a pool: an idle worker takes up any waiting script, or any busy worker
does what comes next. -/
inductive Step (workers : Nat) (world : World σ) : Pool σ α → Pool σ α → Prop where
  | begins {before after : List (Task α)} {script : Script α} {state : σ} :
      (before ++ after).countP Task.isRunning < workers →
        Step workers world ⟨before ++ .waiting script :: after, state⟩
          ⟨before ++ .running script :: after, state⟩
  | works {before after : List (Task α)} {task next : Task α} {state reached : σ} :
      task.Works world state next reached →
        Step workers world ⟨before ++ task :: after, state⟩ ⟨before ++ next :: after, reached⟩

/-- Some steps. -/
abbrev Steps (workers : Nat) (world : World σ) : Pool σ α → Pool σ α → Prop :=
  Relation.ReflTransGen (Step workers world)

/-- Whether the world is steady at all calls that are left to make. -/
def Confined (world : World σ) (pool : Pool σ α) : Prop :=
  ∀ task ∈ pool.tasks, task.Makes world.SteadyAt

/-- What the tasks end with when each is played alone. -/
def endings (world : World σ) (start : σ) (pool : Pool σ α) : List (Except Halt α) :=
  pool.tasks.map (Task.ending world start)

def weight (world : World σ) (start : σ) (pool : Pool σ α) : Nat :=
  (pool.tasks.map (Task.weight world start)).sum

variable {world : World σ} {workers : Nat} {pool next reached : Pool σ α}

/-- One task changes in a step, and keeps what it ends with. -/
theorem Step.keeps (start : σ) (step : Step workers world pool next)
    (confined : pool.Confined world) :
    next.Confined world ∧ next.endings world start = pool.endings world start ∧
      next.weight world start < pool.weight world start := by
  have changed : ∃ before task other after, pool.tasks = before ++ task :: after ∧
      next.tasks = before ++ other :: after ∧ other.Makes world.SteadyAt ∧
      other.ending world start = task.ending world start ∧
      other.weight world start < task.weight world start := by
    cases step with
    | begins =>
      exact ⟨_, _, _, _, rfl, rfl, confined (.waiting _) (by simp), rfl, Nat.lt_succ_self _⟩
    | works works => exact ⟨_, _, _, _, rfl, rfl, works.keeps start (confined _ (by simp))⟩
  obtain ⟨before, task, other, after, old, new, makes, ending, weight⟩ := changed
  refine ⟨fun found among => ?_, ?_, ?_⟩
  · rw [new] at among
    rcases List.mem_append.mp among with earlier | later
    · exact confined found (by simp [old, earlier])
    · rcases List.mem_cons.mp later with rfl | later
      · exact makes
      · exact confined found (by simp [old, later])
  · simp only [endings, old, new, List.map_append, List.map_cons, ending]
  · simp only [Pool.weight, old, new, List.map_append, List.map_cons, List.sum_append,
      List.sum_cons]
    omega

/-- Whatever steps are taken, the tasks end as they do when played alone. -/
theorem Steps.keeps (start : σ) (steps : Steps workers world pool reached)
    (confined : pool.Confined world) :
    reached.Confined world ∧ reached.endings world start = pool.endings world start := by
  induction steps with
  | refl => exact ⟨confined, rfl⟩
  | tail _ step ih =>
    obtain ⟨confined, same⟩ := ih
    obtain ⟨kept, again, _⟩ := step.keeps start confined
    exact ⟨kept, again.trans same⟩

/-- No pool takes steps for ever. -/
theorem acc_step (start : σ) (confined : pool.Confined world) :
    Acc (fun next pool => Step workers world pool next) pool := by
  induction weight : pool.weight world start using Nat.strongRecOn generalizing pool with
  | ind weight ih =>
    refine .intro pool fun next step => ?_
    obtain ⟨kept, _, less⟩ := step.keeps start confined
    exact ih _ (by omega) kept rfl

/-- A pool that cannot take a step has settled all its tasks: a running task could go on, and idle
workers could take up one that waits. -/
theorem settled_of_stuck (staffed : 0 < workers)
    (stuck : ∀ next, ¬ Step workers world pool next) :
    ∀ task ∈ pool.tasks, ∃ result, task = .settled result := by
  obtain ⟨tasks, state⟩ := pool
  have idle : ∀ task ∈ tasks, ¬ task.isRunning = true := by
    intro task among running
    obtain ⟨before, after, rfl⟩ := List.append_of_mem among
    cases task with
    | waiting | settled => cases running
    | running script =>
      obtain ⟨next, reached, works⟩ := Task.exists_works world script state
      exact stuck _ (.works works)
  intro task among
  cases task with
  | settled result => exact ⟨result, rfl⟩
  | running script => exact absurd rfl (idle _ among)
  | waiting script =>
    obtain ⟨before, after, rfl⟩ := List.append_of_mem among
    have free : (before ++ after).countP Task.isRunning = 0 :=
      List.countP_eq_zero.mpr fun other found => idle other (by
        rcases List.mem_append.mp found with earlier | later
        · simp [earlier]
        · simp [later])
    exact absurd (.begins (free ▸ staffed)) (stuck _)

/-- However the workers of a pool proceed, they come to an end, and then every task has
ended at its place as it does when it is played alone. -/
theorem settles (start : σ) (confined : pool.Confined world) (staffed : 0 < workers) :
    Acc (fun next pool => Step workers world pool next) pool ∧
      ∀ reached, Steps workers world pool reached → (∀ next, ¬ Step workers world reached next) →
        reached.tasks = (pool.endings world start).map .settled := by
  refine ⟨acc_step start confined, fun reached steps stuck => ?_⟩
  obtain ⟨_, same⟩ := steps.keeps start confined
  have settled := settled_of_stuck staffed stuck
  rw [← same, endings, List.map_map]
  refine (List.map_id reached.tasks).symm.trans (List.map_congr_left fun task among => ?_)
  obtain ⟨result, rfl⟩ := settled task among
  rfl

end Pool

end ArtifactAudit
