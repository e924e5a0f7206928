import ArtifactAudit.Proofs.Platform.Answers
import ArtifactAudit.Proofs.Platform.Operations
import ArtifactAudit.Proofs.Script.Observation

/-!
# Waiting for a run

A run is polled until an answer settles the wait: it brings a failure or a fault, or it
reports a state in which the run has ended, or the clock has reached the deadline after
it. The first such answer decides (`waitForRun_decided`), and between two polls there is
one pause. A pause that is refused ends the wait as well (`waitForRun_breaks`).
-/

set_option autoImplicit false

namespace ArtifactAudit.Platform

/-! ## The state in a record -/

/-- Two readings together give what each of them gives. -/
theorem Checked.both_eq_ok {α β : Type} {first : Checked α} {second : Checked β} {pair : α × β}
    (gave : Checked.both first second = .ok pair) : first = .ok pair.1 ∧ second = .ok pair.2 := by
  cases first <;> cases second <;> cases gave
  exact ⟨rfl, rfl⟩

theorem Checked.exists_of_map_eq_ok {α β : Type} {checked : Checked α} {f : α → β} {value : β}
    (gave : checked.map f = .ok value) : ∃ a, checked = .ok a ∧ f a = value := by
  cases checked with
  | ok a => exact ⟨a, rfl, Except.ok.inj gave⟩
  | error defects => cases gave

theorem RunState.ofWord?_word (state : RunState) : ofWord? state.word = some state := by
  cases state <;> decide

/-- A word that is no state's leaves the state unspecified. -/
theorem RunState.ofWord?_eq_none {word : String} (unknown : ∀ state : RunState, word ≠ state.word) :
    ofWord? word = none := by
  refine List.find?_eq_none.mpr fun state _ same => ?_
  exact unknown state (by simpa using Eq.symm (beq_iff_eq.mp same))

/-- The state of a run is the one whose word is given for it, and otherwise it is
unspecified. -/
theorem Run.state_of_read {fields : Fields} {run : Run}
    (reads : Run.read (.object fields) = .ok run) :
    (∀ state : RunState, fields.lookup "state" = some (.string state.word) → run.state = state) ∧
      ((∀ state : RunState, fields.lookup "state" ≠ some (.string state.word)) →
        run.state = .unspecified) := by
  obtain ⟨⟨runId, displayName, state⟩, gave, rfl⟩ := Checked.exists_of_map_eq_ok reads
  have read : optional "state" .unspecified RunState.read fields = .ok state :=
    (Checked.both_eq_ok (Checked.both_eq_ok gave).2).2
  unfold optional at read
  constructor
  · intro word named
    rw [named] at read
    change Except.ok ((RunState.ofWord? word.word).getD .unspecified) = _ at read
    rw [RunState.ofWord?_word] at read
    exact (Except.ok.inj read).symm
  · intro unnamed
    cases given : fields.lookup "state" with
    | none =>
      rw [given] at read
      exact (Except.ok.inj read).symm
    | some value =>
      rw [given] at read
      cases value with
      | string word =>
        have unknown : ∀ state : RunState, word ≠ state.word := by
          rintro state rfl
          exact unnamed state given
        change Except.ok ((RunState.ofWord? word).getD .unspecified) = _ at read
        rw [RunState.ofWord?_eq_none unknown] at read
        exact (Except.ok.inj read).symm
      | _ => exact (Except.ok.inj read).symm

namespace Client

variable {client : Client} {runId : String} {location : Url.Location} {deadline : Float}

/-! ## Polls -/

/-- How an answer to a poll settles the wait, with the reading of the clock after it. A
run that has not ended settles it when the deadline is reached. -/
inductive Settles (client : Client) (runId : String) (location : Url.Location) (deadline : Float)
    (answer : Answer) (reading : Float) : Except Halt Run → Prop where
  | failed {failure : RequestFailure} :
      Fails "Run" Run.read .get (runPath runId) location answer failure →
        Settles client runId location deadline answer reading
          (.error (.failure (.request failure)))
  | upset {fault : Fault} :
      Upsets location answer fault →
        Settles client runId location deadline answer reading (.error (.fault fault))
  | concluded {run : Run} {result : Except Halt Run} :
      location.checkOrigin = .ok () → Reports Run.read answer run →
        client.Concludes runId run result → (run.state.isTerminal = false → deadline ≤ reading) →
          Settles client runId location deadline answer reading result

/-- An answer that settles nothing reports a run that goes on, before the deadline. -/
theorem reports_of_not_settles {answer : Answer} {reading : Float}
    (open_ : ∀ result, ¬ client.Settles runId location deadline answer reading result) :
    location.checkOrigin = .ok () ∧ ∃ run, Reports Run.read answer run ∧
      run.state.isTerminal = false ∧ ¬ deadline ≤ reading := by
  rcases answered_cases "Run" Run.read (runPath runId) location answer with
    ⟨failure, fails⟩ | ⟨fault, upsets⟩ | ⟨origin, run, reports⟩
  · exact absurd (.failed fails) (open_ _)
  · exact absurd (.upset upsets) (open_ _)
  · refine ⟨origin, run, reports, ?_⟩
    cases terminal : run.state.isTerminal with
    | true =>
      by_cases success : run.state = .succeeded
      · exact absurd (.concluded origin reports (.succeeded success) (by simp [terminal]))
          (open_ _)
      · exact absurd (.concluded origin reports (.ended terminal success) (by simp [terminal]))
          (open_ _)
    | false =>
      exact ⟨rfl, fun due =>
        open_ _ (.concluded origin reports (.late terminal) fun _ => due)⟩

section

variable (located : client.locate? (runPath runId) none = some location)
  (sendable : location.isSendable = true) (opened : client.closed = false)
  {answers : Nat → Answer} {readings : Nat → Float} {rests : Nat → Except Fault Unit}
  {sent looks : Nat}

include located sendable opened

theorem getRun_eq : client.getRun runId =
    .ask (.request (client.getAt location)) fun answer =>
      .ofSettled (answered "Run" Run.read (runPath runId) location answer) :=
  fetch_eq located sendable opened

/-- A poll whose answer settles nothing is followed by a look at the clock, a pause and
the next poll. -/
theorem pollUntil_goes (pause : IsPause client.pollInterval) (patience : Nat)
    (rested : rests (sent + 1) = .ok ())
    (unsettled : ∀ result,
      ¬ client.Settles runId location deadline (answers sent) (readings looks) result) :
    ∃ front, requestsOf front = [client.getAt location] ∧ pausesOf front = [client.pollInterval] ∧
      (client.pollUntil runId deadline (patience + 1)).play (inTurn answers readings rests)
          (sent, looks) =
        (client.pollUntil runId deadline patience).play (inTurn answers readings rests)
          (sent + 1, looks + 1) ∧
      (client.pollUntil runId deadline (patience + 1)).events (inTurn answers readings rests)
          (sent, looks) =
        front ++ (client.pollUntil runId deadline patience).events (inTurn answers readings rests)
          (sent + 1, looks + 1) := by
  obtain ⟨origin, run, reports, running, early⟩ := reports_of_not_settles unsettled
  have told : answered "Run" Run.read (runPath runId) location (answers sent) = .ok run :=
    answered_of_reports origin reports
  refine ⟨[⟨.request (client.getAt location), answers sent⟩, ⟨.clock, readings looks⟩,
    ⟨.log ⟨.debug, s!"Run {runId} is {run.state.word}, waiting"⟩, ()⟩,
    ⟨.sleep client.pollInterval, .ok ()⟩], rfl, rfl, ?_⟩
  simp only [pollUntil, getRun_eq located sendable opened, Bind.bind, Script.bind, Script.play,
    Script.events, inTurn, told, Script.ofSettled, running, Bool.false_eq_true, if_false,
    Script.perform, early, Script.log, pause.sleep_eq, rested, Script.orCrash, List.cons_append,
    List.nil_append, and_self]

/-- A poll whose answer settles the wait is the last call but for looks at the clock and
lines in the log. -/
theorem pollUntil_settles (patience : Nat) {result : Except Halt Run}
    (settles : client.Settles runId location deadline (answers sent) (readings looks) result) :
    ((client.pollUntil runId deadline (patience + 1)).play (inTurn answers readings rests)
        (sent, looks)).1 = result ∧
      requestsOf ((client.pollUntil runId deadline (patience + 1)).events
        (inTurn answers readings rests) (sent, looks)) = [client.getAt location] ∧
      pausesOf ((client.pollUntil runId deadline (patience + 1)).events
        (inTurn answers readings rests) (sent, looks)) = [] := by
  simp only [pollUntil, getRun_eq located sendable opened, Bind.bind, Script.bind, Script.play,
    Script.events, inTurn]
  cases settles with
  | failed fails =>
    rw [answered_of_fails fails]
    exact ⟨rfl, rfl, rfl⟩
  | upset upsets =>
    rw [answered_of_upsets upsets]
    exact ⟨rfl, rfl, rfl⟩
  | concluded origin reports concludes due =>
    rename_i run
    rw [answered_of_reports origin reports]
    cases concludes with
    | succeeded success =>
      simp only [Script.ofSettled, Script.bind, success, if_true]
      exact ⟨rfl, rfl, rfl⟩
    | ended terminal other =>
      simp only [Script.ofSettled, Script.bind, terminal, if_true, if_neg other]
      exact ⟨rfl, rfl, rfl⟩
    | late running =>
      have passed : deadline ≤ readings looks := due running
      simp only [Script.ofSettled, Script.bind, running, Bool.false_eq_true, if_false,
        Script.perform, Script.play, Script.events, inTurn, passed, if_true]
      exact ⟨rfl, rfl, rfl⟩

/-- The first answer that settles the wait decides, by induction on the polls that settle
nothing: each of them takes one answer and one reading of the clock. -/
theorem pollUntil_decided (pause : IsPause client.pollInterval) (k sent looks patience : Nat)
    {result : Except Halt Run} (patient : k < patience)
    (rested : ∀ i < k, rests (sent + i + 1) = .ok ())
    (first : ∀ i < k, ∀ other,
      ¬ client.Settles runId location deadline (answers (sent + i)) (readings (looks + i)) other)
    (settles : client.Settles runId location deadline (answers (sent + k)) (readings (looks + k))
      result) :
    ((client.pollUntil runId deadline patience).play (inTurn answers readings rests)
        (sent, looks)).1 = result ∧
      requestsOf ((client.pollUntil runId deadline patience).events (inTurn answers readings rests)
        (sent, looks)) = List.replicate (k + 1) (client.getAt location) ∧
      pausesOf ((client.pollUntil runId deadline patience).events (inTurn answers readings rests)
        (sent, looks)) = List.replicate k client.pollInterval := by
  induction k generalizing sent looks patience with
  | zero =>
    obtain ⟨patience, rfl⟩ : ∃ left, patience = left + 1 := ⟨patience - 1, by omega⟩
    exact pollUntil_settles located sendable opened patience settles
  | succ k ih =>
    obtain ⟨patience, rfl⟩ : ∃ left, patience = left + 1 := ⟨patience - 1, by omega⟩
    have unsettled : ∀ other, ¬ client.Settles runId location deadline (answers sent)
        (readings looks) other := first 0 (Nat.succ_pos k)
    obtain ⟨front, asked, paused, plays, happens⟩ :=
      pollUntil_goes located sendable opened pause patience (rested 0 (Nat.succ_pos k)) unsettled
    have later : ∀ n i, n + 1 + i = n + (i + 1) := fun n i => by omega
    obtain ⟨same, requests, pauses⟩ := ih (sent + 1) (looks + 1) patience (by omega)
      (fun i small => by
        rw [later sent]
        exact rested (i + 1) (Nat.succ_lt_succ small))
      (fun i small => by
        rw [later sent, later looks]
        exact first (i + 1) (Nat.succ_lt_succ small))
      (by rwa [later sent, later looks])
    rw [plays, happens, requestsOf_append, pausesOf_append, asked, paused, requests, pauses]
    exact ⟨same, rfl, rfl⟩

/-- For every sequence of answers and of readings of the clock, and for every patience that
lasts as long, if the system refuses no pause up to there: the wait ends as the first answer
that settles it says, with one request for each answer up to there and one pause between every
two requests. A run whose state is given by no state's word has not ended. -/
theorem waitForRun_decided (pause : IsPause client.pollInterval) (answers : Nat → Answer)
    (readings : Nat → Float) (rests : Nat → Except Fault Unit) {k : Nat}
    {result : Except Halt Run} (patient : k < client.patience)
    (rested : ∀ i < k, rests (i + 1) = .ok ())
    (first : ∀ i < k, ∀ other, ¬ client.Settles runId location (readings 0 + client.runTimeout)
      (answers i) (readings (i + 1)) other)
    (settles : client.Settles runId location (readings 0 + client.runTimeout) (answers k)
      (readings (k + 1)) result) :
    ((client.waitForRun runId).play (inTurn answers readings rests) (0, 0)).1 = result ∧
      requestsOf ((client.waitForRun runId).events (inTurn answers readings rests) (0, 0)) =
        List.replicate (k + 1) (client.getAt location) ∧
      pausesOf ((client.waitForRun runId).events (inTurn answers readings rests) (0, 0)) =
        List.replicate k client.pollInterval ∧
      ∀ fields run, Run.read (.object fields) = .ok run →
        (∀ state : RunState, fields.lookup "state" = some (.string state.word) →
            run.state = state) ∧
          ((∀ state : RunState, fields.lookup "state" ≠ some (.string state.word)) →
            run.state.isTerminal = false) := by
  have shift : ∀ i, 1 + i = i + 1 := fun i => Nat.add_comm 1 i
  obtain ⟨same, requests, pauses⟩ := pollUntil_decided located sendable opened pause k 0 1
    client.patience patient
    (fun i small => by
      rw [Nat.zero_add]
      exact rested i small)
    (fun i small => by
      rw [Nat.zero_add, shift]
      exact first i small)
    (by rwa [Nat.zero_add, shift])
  refine ⟨same, requests, pauses, fun fields run reads => ?_⟩
  obtain ⟨named, unnamed⟩ := Run.state_of_read reads
  refine ⟨named, fun unknown => ?_⟩
  rw [unnamed unknown]
  rfl

/-- The pause after a first poll that settles nothing is the end if it is a fault, or if the
system refuses it. -/
theorem waitForRun_breaks {fault : Fault} (patient : 0 < client.patience)
    (broken : Script.sleep client.pollInterval = .crash fault ∨
      IsPause client.pollInterval ∧ rests 1 = .error fault)
    (unsettled : ∀ result, ¬ client.Settles runId location (readings 0 + client.runTimeout)
      (answers 0) (readings 1) result) :
    ((client.waitForRun runId).play (inTurn answers readings rests) (0, 0)).1 =
      .error (.fault fault) := by
  obtain ⟨origin, run, reports, running, early⟩ := reports_of_not_settles unsettled
  have told : answered "Run" Run.read (runPath runId) location (answers 0) = .ok run :=
    answered_of_reports origin reports
  have breaks : ∀ next : Unit → Script Run,
      (((Script.sleep client.pollInterval).bind next).play (inTurn answers readings rests)
        (1, 2)).1 = .error (.fault fault) := by
    intro next
    rcases broken with crashes | ⟨pause, refused⟩
    · rw [crashes]
      rfl
    · simp only [pause.sleep_eq, Script.bind, Script.play, inTurn, refused, Script.orCrash,
        Script.crash]
  obtain ⟨left, same⟩ : ∃ left, client.patience = left + 1 := ⟨client.patience - 1, by omega⟩
  simp only [waitForRun, same, pollUntil, getRun_eq located sendable opened, Bind.bind, Script.bind,
    Script.play, inTurn, told, Script.ofSettled, running, Bool.false_eq_true, if_false,
    Script.perform, early, Script.log]
  exact breaks _

end

/-- An answer that reports a run that goes on settles nothing before the deadline. -/
theorem not_settles_of_running {answer : Answer} {reading : Float} {run : Run}
    (origin : location.checkOrigin = .ok ()) (reports : Reports Run.read answer run)
    (running : run.state.isTerminal = false) (early : ¬ deadline ≤ reading)
    (result : Except Halt Run) :
    ¬ client.Settles runId location deadline answer reading result := by
  intro settles
  cases settles with
  | failed fails => exact fails.not_reports run reports
  | upset upsets =>
    obtain ⟨response, rfl, success, _⟩ := reports
    exact not_upsets_of_success origin success _ upsets
  | concluded _ again _ due =>
    rw [again.unique reports] at due
    exact early (due running)

/-- The answers of a platform whose run succeeds at the third poll. The second answer
names no state. -/
def slowAnswers : Nat → Answer
  | 0 => told "\x7b\"run_id\":\"r\",\"state\":\"RUNNING\"\x7d"
  | 1 => told "\x7b\"run_id\":\"r\",\"state\":7\x7d"
  | _ => told "\x7b\"run_id\":\"r\",\"state\":\"SUCCEEDED\"\x7d"

/-- Readings of the clock, the third of them after the deadline. -/
def slowReadings : Nat → Float
  | 0 => 0
  | 1 => 5
  | 2 => 10
  | _ => 10000

/-- Where the run `r` is requested. -/
def slowLocation : Url.Location :=
  { nestedClient.base.location with path := "/ds/apis/v2beta1/runs/r".toList }

theorem waitForRun_decided_for_slow_run :
    nestedClient.locate? (runPath "r") none = some slowLocation ∧ slowLocation.isSendable = true ∧
      nestedClient.closed = false ∧ IsPause nestedClient.pollInterval ∧
      2 < nestedClient.patience ∧
      (∀ i < 2, ∀ other, ¬ nestedClient.Settles "r" slowLocation
        (slowReadings 0 + nestedClient.runTimeout) (slowAnswers i) (slowReadings (i + 1)) other) ∧
      nestedClient.Settles "r" slowLocation (slowReadings 0 + nestedClient.runTimeout)
        (slowAnswers 2) (slowReadings 3) (.ok ⟨"r", none, .succeeded⟩) ∧
      ((nestedClient.waitForRun "r").play (inTurn slowAnswers slowReadings) (0, 0)).1 =
        .ok ⟨"r", none, .succeeded⟩ := by
  have located : nestedClient.locate? (runPath "r") none = some slowLocation := by decide
  have sendable : slowLocation.isSendable = true := by decide
  have pause : IsPause nestedClient.pollInterval := ⟨by decide, by decide, by decide⟩
  have patient : 2 < nestedClient.patience := by decide
  have running : Reports Run.read (slowAnswers 0) ⟨"r", none, .running⟩ := ⟨_, rfl, rfl, rfl⟩
  have stateless : Reports Run.read (slowAnswers 1) ⟨"r", none, .unspecified⟩ := ⟨_, rfl, rfl, rfl⟩
  have first : ∀ i < 2, ∀ other, ¬ nestedClient.Settles "r" slowLocation
      (slowReadings 0 + nestedClient.runTimeout) (slowAnswers i) (slowReadings (i + 1)) other
    | 0, _ => not_settles_of_running rfl running rfl (by decide)
    | 1, _ => not_settles_of_running rfl stateless rfl (by decide)
  have settles : nestedClient.Settles "r" slowLocation (slowReadings 0 + nestedClient.runTimeout)
      (slowAnswers 2) (slowReadings 3) (.ok ⟨"r", none, .succeeded⟩) :=
    .concluded rfl ⟨_, rfl, rfl, rfl⟩ (.succeeded rfl) nofun
  exact ⟨located, sendable, rfl, pause, patient, first, settles,
    (waitForRun_decided located sendable rfl pause slowAnswers slowReadings (fun _ => .ok ())
      patient (fun _ _ => rfl) first settles).1⟩

/-- A client that pauses for some seconds. -/
def pausingFor (seconds : Float) : Client := { nestedClient with pollInterval := seconds }

/-- The answers of a platform whose run succeeds at the second poll. -/
def quickAnswers (poll : Nat) : Answer :=
  slowAnswers (2 * poll)

/-- The answers of a system whose clock runs out in the first pause. -/
def exhausted (_ : Nat) : Except Fault Unit := .error .overflow

/-- A pause that is a fault, or that the system refuses, ends the wait before the second poll. -/
theorem pausingFor_breaks {seconds : Float}
    (broken : Script.sleep seconds = .crash .overflow ∨ IsPause seconds) :
    (∀ other, ¬ (pausingFor seconds).Settles "r" slowLocation
        (slowReadings 0 + (pausingFor seconds).runTimeout) (quickAnswers 0) (slowReadings 1)
        other) ∧
      (((pausingFor seconds).waitForRun "r").play (inTurn quickAnswers slowReadings exhausted)
        (0, 0)).1 = .error (.fault .overflow) := by
  have running : Reports Run.read (quickAnswers 0) ⟨"r", none, .running⟩ := ⟨_, rfl, rfl, rfl⟩
  have early : ¬ slowReadings 0 + (pausingFor seconds).runTimeout ≤ slowReadings 1 := by
    change ¬ slowReadings 0 + nestedClient.runTimeout ≤ slowReadings 1
    decide
  have located : (pausingFor seconds).locate? (runPath "r") none = some slowLocation := by
    change nestedClient.locate? (runPath "r") none = some slowLocation
    decide
  have unsettled : ∀ other, ¬ (pausingFor seconds).Settles "r" slowLocation
      (slowReadings 0 + (pausingFor seconds).runTimeout) (quickAnswers 0) (slowReadings 1) other :=
    not_settles_of_running rfl running rfl early
  have patient : 0 < (pausingFor seconds).patience := by
    change 0 < nestedClient.patience
    decide
  exact ⟨unsettled, waitForRun_breaks located (by decide) rfl patient
    (broken.imp_right fun pause => ⟨pause, rfl⟩) unsettled⟩

/-- A finite pause may be too long to be counted in nanoseconds, and a shorter one may run past
the last reading of the clock of the system. The run succeeds at the second poll, which is not
made. -/
theorem waitForRun_ends_with_fault :
    (0 : Float) ≤ 10000000000 ∧ (10000000000 : Float).isFinite = true ∧ IsPause 9223372036 ∧
      ∀ seconds ∈ [10000000000, 9223372036],
        (∀ other, ¬ (pausingFor seconds).Settles "r" slowLocation
          (slowReadings 0 + (pausingFor seconds).runTimeout) (quickAnswers 0) (slowReadings 1)
          other) ∧
        (pausingFor seconds).Settles "r" slowLocation
          (slowReadings 0 + (pausingFor seconds).runTimeout) (quickAnswers 1) (slowReadings 2)
          (.ok ⟨"r", none, .succeeded⟩) ∧
        (((pausingFor seconds).waitForRun "r").play (inTurn quickAnswers slowReadings exhausted)
          (0, 0)).1 = .error (.fault .overflow) := by
  have pause : IsPause 9223372036 := ⟨by decide, by decide, by decide⟩
  have succeeded : Reports Run.read (quickAnswers 1) ⟨"r", none, .succeeded⟩ := ⟨_, rfl, rfl, rfl⟩
  refine ⟨by decide, by decide, pause, fun seconds among => ?_⟩
  have broken : Script.sleep seconds = .crash .overflow ∨ IsPause seconds := by
    rcases List.mem_cons.mp among with rfl | among
    · exact .inl rfl
    · obtain rfl := List.mem_singleton.mp among
      exact .inr pause
  obtain ⟨unsettled, ends⟩ := pausingFor_breaks broken
  exact ⟨unsettled, .concluded rfl succeeded (.succeeded rfl) nofun, ends⟩

end Client

end ArtifactAudit.Platform
