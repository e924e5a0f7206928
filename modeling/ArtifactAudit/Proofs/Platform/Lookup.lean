import ArtifactAudit.Proofs.Platform.Polling

/-!
# Looking a pipeline up

A listing takes the pages one after another, each asked for with the token of the one
before (`Pages`). A lookup lists the pipelines again and again until a listing shows the
name or breaks off, or the attempts are used up, and pauses between two listings, if the
system refuses no pause (`findPipelineId_decided`).
-/

set_option autoImplicit false

namespace ArtifactAudit.Platform

/-! ## Pages -/

namespace Client

/-- The course of a listing from a page on, with a number of pages that may still be asked
for: the pages are taken as long as each of them names another, and their pipelines are put
together in order. -/
inductive Pages (client : Client) :
    Nat → Option String → List Event → Except Halt (List Pipeline) → Prop
  | broke {left : Nat} {token : Option String} {events : List Event} {reason : Halt} :
      (client.listPage token).Runs events (.error reason) →
        Pages client (left + 1) token events (.error reason)
  | last {left : Nat} {token : Option String} {events : List Event} {page : PipelineListing} :
      (client.listPage token).Runs events (.ok page) →
        PipelineListing.continuation? page = none →
          Pages client (left + 1) token events (.ok page.pipelines)
  | more {left : Nat} {token : Option String} {next : String} {before after : List Event}
      {page : PipelineListing} {rest : Except Halt (List Pipeline)} :
      (client.listPage token).Runs before (.ok page) →
        PipelineListing.continuation? page = some next → Pages client left (some next) after rest →
          Pages client (left + 1) token (before ++ after) (rest.map (page.pipelines ++ ·))
  | endless {token : Option String} : Pages client 0 token [] (.error (.fault .outOfPatience))

theorem listFrom_pages {client : Client} {patience : Nat} {token : Option String}
    {listed : List Pipeline} {events : List Event} {result : Except Halt (List Pipeline)}
    (run : (client.listFrom patience token listed).Runs events result) :
    ∃ rest, client.Pages patience token events rest ∧ result = rest.map (listed ++ ·) := by
  induction patience generalizing token listed events with
  | zero =>
    obtain ⟨rfl, rfl⟩ := Script.runs_halt_iff.mp run
    exact ⟨_, .endless, rfl⟩
  | succ patience ih =>
    rcases Script.runs_bind_iff.mp run with ⟨page, before, after, rfl, gave, rest⟩ |
      ⟨reason, rfl, stopped⟩
    · cases continues : PipelineListing.continuation? page with
      | none =>
        rw [continues] at rest
        obtain ⟨rfl, rfl⟩ := Script.runs_done_iff.mp rest
        rw [List.append_nil]
        exact ⟨_, .last gave continues, rfl⟩
      | some next =>
        rw [continues] at rest
        obtain ⟨others, pages, rfl⟩ := ih rest
        refine ⟨_, .more gave continues pages, ?_⟩
        cases others with
        | ok pipelines => simp [Except.map]
        | error reason => rfl
    · exact ⟨_, .broke stopped, rfl⟩

theorem listPipelines_pages {client : Client} {events : List Event}
    {result : Except Halt (List Pipeline)} (run : client.listPipelines.Runs events result) :
    client.Pages client.patience none events result := by
  obtain ⟨rest, pages, rfl⟩ := listFrom_pages run
  cases rest with
  | ok pipelines => exact pages
  | error reason => exact pages

end Client

/-! ## Attempts -/

/-- An attempt of a lookup: what happened while the pipelines were listed, and how that
ended. -/
structure Attempt where
  events : List Event
  result : Except Halt (List Pipeline)

/-- Whether the listing is complete and shows no pipeline with the name. -/
def Attempt.Misses (attempt : Attempt) (name : String) : Prop :=
  ∃ pipelines, attempt.result = .ok pipelines ∧
    ∀ pipeline ∈ pipelines, pipeline.displayName ≠ name

namespace Client

/-- How an attempt decides a lookup: the listing broke off, it shows a first pipeline with
the name, or it was the last one. -/
inductive Decides (client : Client) (name : String) (isLast : Prop) (attempt : Attempt) :
    Except Halt String → Prop where
  | broke {reason : Halt} :
      attempt.result = .error reason → Decides client name isLast attempt (.error reason)
  | found {before after : List Pipeline} {pipeline : Pipeline} :
      attempt.result = .ok (before ++ pipeline :: after) →
        (∀ earlier ∈ before, earlier.displayName ≠ name) → pipeline.displayName = name →
          Decides client name isLast attempt (.ok pipeline.pipelineId)
  | missing :
      attempt.Misses name → isLast →
        Decides client name isLast attempt
          (.error (.failure (.pipelineNotFound
            s!"No pipeline named '{name}' after {client.attempts} attempts")))

theorem Decides.mono {client : Client} {name : String} {isLast also : Prop} {attempt : Attempt}
    {result : Except Halt String} (decides : client.Decides name isLast attempt result)
    (implies : isLast → also) : client.Decides name also attempt result := by
  cases decides with
  | broke broke => exact .broke broke
  | found gave unnamed named => exact .found gave unnamed named
  | missing misses last => exact .missing misses (implies last)

/-- The event of a pause between two attempts. -/
def pauseEvent (client : Client) : Event :=
  ⟨.sleep client.pollInterval, .ok ()⟩

/-- The course of a lookup with some attempts left: attempts that miss the name, each with a
pause after it, and a last one that decides. Lines in the log are left out. -/
def Tries (client : Client) (name : String) (left : Nat) (events : List Event)
    (result : Except Halt String) : Prop :=
  ∃ earlier last,
    (∀ attempt ∈ earlier ++ [last],
      client.Pages client.patience none attempt.events attempt.result) ∧
    earlier.length + 1 ≤ left ∧ (∀ attempt ∈ earlier, attempt.Misses name) ∧
    client.Decides name (earlier.length + 1 = left) last result ∧
    unlogged events = (earlier.flatMap fun attempt =>
      unlogged attempt.events ++ [client.pauseEvent]) ++ unlogged last.events

variable {client : Client} {name : String}

/-- An attempt decides, or it misses the name, and after a pause the attempts that are left
are made. -/
theorem findWithin_step (pause : IsPause client.pollInterval) {left : Nat} {events : List Event}
    (rested : Rested events) {result : Except Halt String}
    (run : (client.findWithin name (left + 1)).Runs events result) :
    ∃ attempt : Attempt, client.Pages client.patience none attempt.events attempt.result ∧
      (client.Decides name (left = 0) attempt result ∧
          unlogged events = unlogged attempt.events ∨
        attempt.Misses name ∧ 0 < left ∧
          ∃ rest, (client.findWithin name left).Runs rest result ∧ rest ⊆ events ∧
            unlogged events = unlogged attempt.events ++ client.pauseEvent :: unlogged rest) := by
  rcases Script.runs_bind_iff.mp run with ⟨pipelines, before, after, rfl, gave, rest⟩ |
    ⟨reason, rfl, stopped⟩
  · refine ⟨⟨before, .ok pipelines⟩, listPipelines_pages gave, ?_⟩
    cases found : pipelines.find? (·.displayName == name) with
    | some pipeline =>
      rw [found] at rest
      obtain ⟨later, rfl, ended⟩ := Script.runs_log_bind_iff.mp rest
      obtain ⟨rfl, rfl⟩ := Script.runs_done_iff.mp ended
      obtain ⟨named, front, back, rfl, unnamed⟩ := List.find?_eq_some_iff_append.mp found
      refine .inl ⟨.found rfl (fun other among => ?_) (beq_iff_eq.mp named), by simp⟩
      simpa using unnamed other among
    | none =>
      rw [found] at rest
      obtain ⟨later, rfl, goes⟩ := Script.runs_log_bind_iff.mp rest
      have misses : Attempt.Misses ⟨before, .ok pipelines⟩ name :=
        ⟨pipelines, rfl, fun other among => by
          simpa using List.find?_eq_none.mp found other among⟩
      rw [unlogged_append, unlogged_line]
      split at goes
      · rename_i again
        rw [pause.sleep_eq] at goes
        obtain ⟨answer, tail, rfl, runs⟩ := Script.runs_ask_iff.mp goes
        match answer with
        | .ok () => exact .inr ⟨misses, again, tail, runs, fun _ among => by simp [among], rfl⟩
        | .error fault => exact absurd (by simp) (rested client.pollInterval fault)
      · rename_i none_left
        obtain rfl : left = 0 := by omega
        obtain ⟨rfl, rfl⟩ := Script.runs_halt_iff.mp goes
        exact .inl ⟨.missing misses rfl, by simp⟩
  · exact ⟨⟨events, .error reason⟩, listPipelines_pages stopped, .inl ⟨.broke rfl, rfl⟩⟩

/-- As long as attempts are left, a lookup tries them, by induction on their number: the last
attempt of what follows the first one is the last attempt of all. -/
theorem findWithin_tries (pause : IsPause client.pollInterval) {left : Nat} (more : 0 < left)
    {events : List Event} (rested : Rested events) {result : Except Halt String}
    (run : (client.findWithin name left).Runs events result) :
    client.Tries name left events result := by
  induction left generalizing events with
  | zero => cases more
  | succ left ih =>
    obtain ⟨attempt, pages, ⟨decides, seen⟩ | ⟨misses, again, rest, runs, within, seen⟩⟩ :=
      findWithin_step pause rested run
    · exact ⟨[], attempt, by simpa using pages, Nat.succ_pos left, by simp,
        decides.mono fun same => by simpa using same, by simpa using seen⟩
    · obtain ⟨earlier, last, listed, bound, missed, decides, shown⟩ :=
        ih again (rested.mono within) runs
      refine ⟨attempt :: earlier, last, ?_, by simpa using bound, ?_,
        decides.mono fun same => by simp [same], ?_⟩
      · exact List.forall_mem_cons.mpr ⟨pages, listed⟩
      · exact List.forall_mem_cons.mpr ⟨misses, missed⟩
      · rw [seen, shown]
        simp

/-- A record without a name shown to users has the empty one. -/
theorem Pipeline.displayName_of_read {fields : Fields} {pipeline : Pipeline}
    (reads : Pipeline.read (.object fields) = .ok pipeline)
    (absent : fields.lookup "display_name" = none) : pipeline.displayName = "" := by
  obtain ⟨⟨pipelineId, displayName⟩, gave, rfl⟩ := Checked.exists_of_map_eq_ok reads
  have read := (Checked.both_eq_ok gave).2
  rw [optional, absent] at read
  exact (Except.ok.inj read).symm

/-- In every run of a lookup in which the system refuses no pause, the pipelines are listed once
or more, but not more often than there are attempts, with one pause between two listings and
none after the last. All listings but the last are complete and miss the name, and the last one
decides. -/
theorem findPipelineId_decided (pause : IsPause client.pollInterval) {events : List Event}
    (rested : Rested events) {result : Except Halt String}
    (run : (client.findPipelineId name).Runs events result) :
    (client.attempts : Int) = max 1 client.lookupAttempts ∧
      client.Tries name client.attempts events result ∧
      ∀ fields pipeline, Pipeline.read (.object fields) = .ok pipeline →
        fields.lookup "display_name" = none → name ≠ "" → pipeline.displayName ≠ name := by
  have counted : (client.attempts : Int) = max 1 client.lookupAttempts := by
    unfold attempts
    omega
  refine ⟨counted, findWithin_tries pause (by omega) rested run, ?_⟩
  intro fields pipeline reads absent named same
  rw [Pipeline.displayName_of_read reads absent] at same
  exact named same.symm

/-- The pages of a platform that lists the pipeline `p` at the second attempt, on the second
page. -/
def lateAnswers : Nat → Answer
  | 0 => told "\x7b\x7d"
  | 1 => told "\x7b\"pipelines\":[\x7b\"pipeline_id\":\"1\"\x7d],\"next_page_token\":\"t\"\x7d"
  | _ => told "\x7b\"pipelines\":[\x7b\"pipeline_id\":\"2\",\"display_name\":\"p\"\x7d]\x7d"

def isFound (pipelineId : String) : Except Halt String → Bool
  | .ok found => found == pipelineId
  | .error _ => false

theorem findPipelineId_decided_for_late_pipeline :
    IsPause nestedClient.pollInterval ∧
      ∃ events result, Rested events ∧ (nestedClient.findPipelineId "p").Runs events result ∧
        isFound "2" result = true ∧ pausesOf events = [5] ∧
        nestedClient.Tries "p" nestedClient.attempts events result := by
  have pause : IsPause nestedClient.pollInterval := ⟨by decide, by decide, by decide⟩
  have run := Script.runs_play (inTurn lateAnswers slowReadings) (nestedClient.findPipelineId "p")
    (0, 0)
  have rested : Rested ((nestedClient.findPipelineId "p").events
      (inTurn lateAnswers slowReadings) (0, 0)) :=
    rested_of_grants (fun _ _ => rfl) _ _
  exact ⟨pause, _, _, rested, run, by decide +kernel, by decide +kernel,
    (findPipelineId_decided pause rested run).2.1⟩

def isOverflow : Except Halt String → Bool
  | .error (.fault .overflow) => true
  | _ => false

def isEmptyListing : Except Halt (List Pipeline) → Bool
  | .ok [] => true
  | _ => false

/-- A finite pause may be too long to be counted in nanoseconds, and a shorter one may run past
the last reading of the clock of the system: of ten listings of a platform without pipelines one
is made, and the lookup ends with a fault. -/
theorem findPipelineId_ends_at_long_pause :
    let world := inTurn (fun _ => told "\x7b\x7d") slowReadings exhausted
    (0 : Float) ≤ 10000000000 ∧ (10000000000 : Float).isFinite = true ∧ IsPause 9223372036 ∧
      ∀ seconds ∈ [10000000000, 9223372036],
        (pausingFor seconds).attempts = 10 ∧
          isEmptyListing ((pausingFor seconds).listPipelines.play world (0, 0)).1 = true ∧
          isOverflow (((pausingFor seconds).findPipelineId "p").play world (0, 0)).1 = true ∧
          (requestsOf
            (((pausingFor seconds).findPipelineId "p").events world (0, 0))).length = 1 :=
  ⟨by decide, by decide, ⟨by decide, by decide, by decide⟩, by decide +kernel⟩

end Client

end ArtifactAudit.Platform
