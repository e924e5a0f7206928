import ArtifactAudit.Proofs.Script.Course

/-!
# Phases of calls

A phase says which calls may be seen of a part of a script, and whether they are all
or were broken off by a fault. `Then` puts a phase after another: it begins if and
only if the calls of the one before it gave what it needs, unless a fault broke that
off. `Each` puts phases of one kind after one another.

A course keeps to a phase if its calls are those of the phase and give what the
course gives (`Keeps`). Courses after one another keep to phases after one another
(`Keeps.next`).
-/

set_option autoImplicit false

namespace ArtifactAudit

/-- The calls that may be seen, by whether a fault broke them off. -/
abbrev Phase : Type :=
  Prop → List Act → Prop

/-- Whether the end is a fault. -/
def Faulted {α : Type} : Except Halt α → Prop
  | .error (.fault _) => True
  | _ => False

/-- A phase, and another if the calls of the first one give a value. Only a fault
keeps the second one from beginning then. -/
inductive Then {α : Type} (first : Phase) (gives : List Act → α → Prop) (second : α → Phase) :
    Phase where
  | stops {broke : Prop} {acts : List Act} :
      first broke acts → ((∃ value, gives acts value) → broke) → Then first gives second broke acts
  | goes {broke : Prop} (before after : List Act) {value : α} :
      first False before → gives before value → second value broke after →
        Then first gives second broke (before ++ after)

/-- A phase for each of some entries, one after another. Only a fault keeps an entry
from having its phase. -/
inductive Each {ι : Type} (phase : ι → Phase) : List ι → Phase where
  | nil {broke : Prop} : Each phase [] broke []
  /-- The phase of the first entry is complete. -/
  | cons {broke : Prop} {entry : ι} {rest : List ι} {before after : List Act} :
      phase entry False before → Each phase rest broke after →
        Each phase (entry :: rest) broke (before ++ after)
  /-- The phase of the first entry is broken off. -/
  | stopped {broke : Prop} {entry : ι} {rest : List ι} {acts : List Act} :
      broke → phase entry True acts → Each phase (entry :: rest) broke acts

/-- A course whose value is only passed on ends with a fault when it does itself. -/
theorem Course.Next.of_passing {α β : Type} {course : Course α} {pass : α → β} {acts : List Act}
    {result : Except Halt β}
    (next : Course.Next course (fun value => Course.ends (.ok (pass value))) acts result) :
    ∃ former, course acts former ∧ Faulted former = Faulted result := by
  cases next with
  | stops stopped =>
    rename_i reason
    refine ⟨_, stopped, ?_⟩
    cases reason <;> rfl
  | goes gave ended =>
    obtain ⟨rfl, rfl⟩ := ended
    rw [List.append_nil]
    exact ⟨_, gave, rfl⟩

/-! ## Courses and phases -/

/-- A course keeps to a phase: its calls are those of the phase, and they give a
value if and only if the course does, a fault apart. -/
structure Keeps {α : Type} (course : Course α) (phase : Phase) (gives : List Act → α → Prop) :
    Prop where
  /-- The calls are those of the phase. -/
  calls : ∀ acts result, course acts result → phase (Faulted result) (callsOf acts)
  /-- The calls give the value of the course. -/
  given : ∀ acts value, course acts (.ok value) → gives (callsOf acts) value
  /-- The calls give nothing if the course failed. -/
  ungiven : ∀ acts failure, course acts (.error (.failure failure)) →
    ∀ value, ¬ gives (callsOf acts) value

namespace Keeps

variable {α β : Type} {course : Course α} {phase : Phase} {gives : List Act → α → Prop}

/-- Without announcements all acts are calls. -/
theorem of_silent (silent : ∀ acts result, course acts result → statesOf acts = [])
    (calls : ∀ acts result, course acts result → phase (Faulted result) acts)
    (given : ∀ acts value, course acts (.ok value) → gives acts value)
    (ungiven : ∀ acts failure, course acts (.error (.failure failure)) →
      ∀ value, ¬ gives acts value) : Keeps course phase gives where
  calls acts result seen := by
    rw [callsOf_of_silent (silent acts result seen)]
    exact calls acts result seen
  given acts value seen := by
    rw [callsOf_of_silent (silent acts _ seen)]
    exact given acts value seen
  ungiven acts failure seen := by
    rw [callsOf_of_silent (silent acts _ seen)]
    exact ungiven acts failure seen

/-- Courses after one another keep to phases after one another. -/
theorem next (keeps : Keeps course phase gives) {later : α → Course β} {second : α → Phase}
    (latter : ∀ value acts result, later value acts result →
      second value (Faulted result) (callsOf acts)) (acts : List Act) (result : Except Halt β)
    (follows : Course.Next course later acts result) :
    Then phase gives second (Faulted result) (callsOf acts) := by
  cases follows with
  | stops stopped =>
    rename_i reason
    have calls := keeps.calls _ _ stopped
    cases reason with
    | fault fault => exact .stops calls fun _ => trivial
    | failure failure =>
      exact .stops calls fun ⟨value, gave⟩ => keeps.ungiven _ _ stopped value gave
  | goes gave rest =>
    rw [callsOf_append]
    exact .goes _ _ (keeps.calls _ _ gave) (keeps.given _ _ gave) (latter _ _ _ rest)

end Keeps

end ArtifactAudit
