import ArtifactAudit.Proofs.Script.Runs

/-!
# Scripts in steady worlds

A world is steady at a call if it answers the call in the same way in every state. A
script whose calls are answered alike by two worlds ends alike in both
(`play_eq_of_agrees`), so in a steady world it does not matter when a script is played
(`play_eq_of_makes`).
-/

set_option autoImplicit false

namespace ArtifactAudit

variable {α β σ τ : Type}

/-- Two worlds give the same answer to a call, whatever states they are in. -/
def World.AgreesAt (world : World σ) (other : World τ) (call : Call) : Prop :=
  ∀ state otherState, (world call state).1 = (other call otherState).1

/-- The answer of a world to a call does not depend on its state. -/
def World.SteadyAt (world : World σ) (call : Call) : Prop :=
  world.AgreesAt world call

namespace Script

/-! ## The calls of a script -/

/-- All calls of a script are of some kind, whatever answers it gets. -/
inductive Makes (kind : Call → Prop) : Script α → Prop where
  | done (value : α) : Makes kind (.done value)
  | halt (reason : Halt) : Makes kind (.halt reason)
  | ask {call : Call} {next : call.Answer → Script α} :
      kind call → (∀ answer, Makes kind (next answer)) → Makes kind (.ask call next)

namespace Makes

variable {kind other : Call → Prop}

theorem mono {script : Script α} (makes : script.Makes kind)
    (weaker : ∀ call, kind call → other call) : script.Makes other := by
  induction makes with
  | done value => exact .done value
  | halt reason => exact .halt reason
  | ask made _ ih => exact .ask (weaker _ made) ih

theorem bind {script : Script α} {next : α → Script β} (first : script.Makes kind)
    (second : ∀ value, (next value).Makes kind) : (script.bind next).Makes kind := by
  induction first with
  | done value => exact second value
  | halt reason => exact .halt reason
  | ask made _ ih => exact .ask made ih

theorem discard {script : Script α} (makes : script.Makes kind) :
    (Functor.discard script).Makes kind := by
  change (script.bind fun _ => .done ()).Makes kind
  exact makes.bind fun _ => .done ()

theorem settle {script : Script α} (makes : script.Makes kind) : script.settle.Makes kind := by
  induction makes with
  | done value => exact .done _
  | halt reason => exact .done _
  | ask made _ ih => exact .ask made ih

theorem attempt {script : Script α} (makes : script.Makes kind) :
    script.attempt.Makes kind := by
  refine makes.settle.bind fun settled => ?_
  match settled with
  | .ok value => exact .done _
  | .error (.failure failure) => exact .done _
  | .error (.fault fault) => exact .halt _

theorem ofExcept (result : Except Failure α) : (Script.ofExcept result).Makes kind := by
  cases result with
  | ok value => exact .done value
  | error failure => exact .halt _

theorem of_ask {call : Call} {next : call.Answer → Script α}
    (makes : (Script.ask call next).Makes kind) :
    kind call ∧ ∀ answer, (next answer).Makes kind := by
  cases makes with
  | ask made rest => exact ⟨made, rest⟩

/-- Only calls of the kind happen. -/
theorem of_mem_events {script : Script α} (makes : script.Makes kind) {world : World σ}
    {start : σ} {event : Event} (happened : event ∈ script.events world start) :
    kind event.call := by
  induction makes generalizing start with
  | done value => cases happened
  | halt reason => cases happened
  | ask made _ ih =>
    rcases List.mem_cons.mp happened with rfl | later
    · exact made
    · exact ih _ later

end Makes

/-! ## Playing a script -/

/-- A pair with a known first part. -/
theorem eq_mk_of_fst {pair : α × β} {first : α} (known : pair.1 = first) :
    pair = (first, pair.2) :=
  Prod.ext known rfl

/-- A sequence is played part by part, and its second part only if the first one gives a
value. -/
theorem play_bind (world : World σ) (script : Script α) (next : α → Script β) (start : σ) :
    (script.bind next).play world start =
      match script.play world start with
      | (.ok value, reached) => (next value).play world reached
      | (.error reason, reached) => (.error reason, reached) := by
  induction script generalizing start with
  | done value => rfl
  | halt reason => rfl
  | ask call follow ih => exact ih _ _

/-- After a value the second part is played. -/
theorem play_bind_of_ok {world : World σ} {script : Script α} {next : α → Script β} {start : σ}
    {value : α} (gave : (script.play world start).1 = .ok value) :
    (script.bind next).play world start = (next value).play world (script.play world start).2 := by
  rw [play_bind, eq_mk_of_fst gave]

theorem play_settle (world : World σ) (script : Script α) (start : σ) :
    script.settle.play world start =
      (.ok (script.play world start).1, (script.play world start).2) := by
  induction script generalizing start with
  | done value => rfl
  | halt reason => rfl
  | ask call next ih => exact ih _ _

/-- A script ends alike in two worlds that answer the calls it makes alike, and makes the
same calls. -/
theorem play_eq_of_agrees {world : World σ} {other : World τ} (script : Script α) {start : σ}
    (agrees : ∀ event ∈ script.events world start, world.AgreesAt other event.call)
    (otherStart : τ) :
    (script.play world start).1 = (script.play other otherStart).1 ∧
      script.events world start = script.events other otherStart := by
  induction script generalizing start otherStart with
  | done value => exact ⟨rfl, rfl⟩
  | halt reason => exact ⟨rfl, rfl⟩
  | ask call next ih =>
    have same : (world call start).1 = (other call otherStart).1 :=
      agrees ⟨call, _⟩ List.mem_cons_self start otherStart
    have rest := ih (world call start).1
      (fun event later => agrees event (List.mem_cons_of_mem _ later)) (other call otherStart).2
    simp only [play, events, ← same]
    exact ⟨rest.1, by rw [rest.2]⟩

/-- A script whose calls are steady ends alike from every state. -/
theorem play_eq_of_makes {world : World σ} {script : Script α}
    (makes : script.Makes world.SteadyAt) (start other : σ) :
    (script.play world start).1 = (script.play world other).1 ∧
      script.events world start = script.events world other :=
  play_eq_of_agrees script (fun _ happened => makes.of_mem_events happened) other

end Script

end ArtifactAudit
