import ArtifactAudit.Platform.Client
import ArtifactAudit.Proofs.Script.Course

/-!
# One request

A request either cannot be sent, or it is sent once and its answer decides: the
answer brings a fault, a failure, or a response from which something is taken.
`Exchange` is the course of one request with what is taken from the response, and
every operation of the client that sends a single request follows it
(`fetch_follows`, `createRun_follows`, `getDownload_follows`).
-/

set_option autoImplicit false

namespace ArtifactAudit.Platform

/-- Whether an answer is a response with status 200 whose body is read as a record. -/
def Reports {α : Type} (read : Json.Value → Checked α) (answer : Answer) (record : α) : Prop :=
  ∃ response, answer = .response response ∧ response.status = 200 ∧
    decode read response.body = .ok record

theorem Reports.unique {α : Type} {read : Json.Value → Checked α} {answer : Answer}
    {first second : α} (one : Reports read answer first) (other : Reports read answer second) :
    first = second := by
  obtain ⟨response, rfl, _, reads⟩ := one
  obtain ⟨_, same, _, again⟩ := other
  cases same
  rw [reads] at again
  cases again
  rfl

namespace Client

variable {α β : Type}

/-! ## Requests and their answers -/

/-- Whether a request is the one for a path under the base of the client. -/
def Asks (client : Client) (method : Method) (path : String)
    (parameter : Option (String × String)) (body : Body) (request : Request) : Prop :=
  ∃ location, client.locate? path parameter = some location ∧
    request = { method, location, authorization := client.authorization, body }

/-- The faults that keep a request from being sent. -/
inductive Blocks (client : Client) (path : String) (parameter : Option (String × String)) :
    Fault → Prop where
  /-- The path leads to no location. -/
  | unlocated : client.locate? path parameter = none → Blocks client path parameter .invalidUrl
  /-- The location cannot be written in ASCII. -/
  | unsendable {location : Url.Location} :
      client.locate? path parameter = some location → location.isSendable = false →
        Blocks client path parameter .unencodable
  | closed {location : Url.Location} :
      client.locate? path parameter = some location → location.isSendable = true →
        client.closed = true → Blocks client path parameter .closed

/-- The faults that an answer brings. -/
inductive Upsets (location : Url.Location) : Answer → Fault → Prop where
  /-- The connection is at fault. -/
  | connection (fault : Fault) : Upsets location (.fault fault) fault
  /-- The location is no origin of responses. -/
  | origin {response : Response} {error : Url.Location.OriginError} :
      location.checkOrigin = .error error →
        Upsets location (.response response) (.value error.message)
  /-- The response is no success, and its body is no text. -/
  | text {response : Response} {fault : Fault} :
      location.checkOrigin = .ok () → response.status ≠ 200 →
        response.text = .error fault → Upsets location (.response response) fault

/-- The failures that an answer brings before its body is read. -/
inductive Denies (method : Method) (path : String) (location : Url.Location) :
    Answer → RequestFailure → Prop where
  | unanswered (reason : String) :
      Denies method path location (.failed reason)
        (.transport s!"{method.name} {path} failed: {reason}")
  | status {response : Response} {text : String} :
      location.checkOrigin = .ok () → response.status ≠ 200 → response.text = .ok text →
        Denies method path location (.response response)
          (.unexpectedStatus response.status location.text text)

/-- A response with status 200 brings no fault. -/
theorem not_upsets_of_success {location : Url.Location} {response : Response}
    (origin : location.checkOrigin = .ok ()) (success : response.status = 200) (fault : Fault) :
    ¬ Upsets location (.response response) fault := by
  intro upsets
  cases upsets with
  | origin broken =>
    rw [origin] at broken
    cases broken
  | text _ other => exact other success

/-- An answer that brings a failure brings no fault. -/
theorem Denies.not_upsets {method : Method} {path : String} {location : Url.Location}
    {answer : Answer} {failure : RequestFailure}
    (denies : Denies method path location answer failure) (fault : Fault) :
    ¬ Upsets location answer fault := by
  intro upsets
  cases denies with
  | unanswered => cases upsets
  | status origin other shown =>
    cases upsets with
    | origin broken =>
      rw [origin] at broken
      cases broken
    | text _ _ broken =>
      rw [shown] at broken
      cases broken

/-- The faults that come with an answer: those that it brings, and those of taking
something from a response with status 200. -/
inductive Faults (take : Url.Location → Response → Except Halt α) (location : Url.Location) :
    Answer → Fault → Prop where
  | upset {answer : Answer} {fault : Fault} :
      Upsets location answer fault → Faults take location answer fault
  | taken {response : Response} {fault : Fault} :
      location.checkOrigin = .ok () → response.status = 200 →
        take location response = .error (.fault fault) →
          Faults take location (.response response) fault

/-- The course of one request: what is taken from a response with status 200 is
the end. -/
inductive Exchange (client : Client) (method : Method) (path : String)
    (parameter : Option (String × String)) (body : Body)
    (take : Url.Location → Response → Except Halt α) : List Act → Except Halt α → Prop where
  | blocked {fault : Fault} :
      client.Blocks path parameter fault →
        Exchange client method path parameter body take [] (.error (.fault fault))
  | upset {request : Request} {answer : Answer} {fault : Fault} :
      client.Asks method path parameter body request → Upsets request.location answer fault →
        Exchange client method path parameter body take [.request request answer]
          (.error (.fault fault))
  | denied {request : Request} {answer : Answer} {failure : RequestFailure} :
      client.Asks method path parameter body request →
        Denies method path request.location answer failure →
          Exchange client method path parameter body take [.request request answer]
            (.error (.failure (.request failure)))
  | taken {request : Request} {response : Response} :
      client.Asks method path parameter body request →
        request.location.checkOrigin = .ok () → response.status = 200 →
          Exchange client method path parameter body take [.request request (.response response)]
            (take request.location response)

namespace Exchange

variable {client : Client} {method : Method} {path : String} {parameter : Option (String × String)}
  {body : Body} {take : Url.Location → Response → Except Halt α} {acts : List Act}

-- What is taken is no constructor, so the end of a course does not tell the cases
-- apart by itself. The three lemmas do that once for each kind of end.

/-- A value is taken from a response with status 200 to one request. -/
theorem gave {value : α}
    (exchange : client.Exchange method path parameter body take acts (.ok value)) :
    ∃ request response, acts = [.request request (.response response)] ∧
      client.Asks method path parameter body request ∧
      request.location.checkOrigin = .ok () ∧ response.status = 200 ∧
      take request.location response = .ok value := by
  generalize shape : (Except.ok value : Except Halt α) = result at exchange
  cases exchange with
  | taken asks origin success => exact ⟨_, _, rfl, asks, origin, success, rfl⟩
  | _ => cases shape

/-- A failure comes with the answer to one request, or from taking something from it. -/
theorem failing {failure : Failure}
    (exchange : client.Exchange method path parameter body take acts (.error (.failure failure))) :
    ∃ request answer, acts = [.request request answer] ∧
      client.Asks method path parameter body request ∧
      ((∃ cause, Denies method path request.location answer cause ∧ failure = .request cause) ∨
        ∃ response, answer = .response response ∧ request.location.checkOrigin = .ok () ∧
          response.status = 200 ∧ take request.location response = .error (.failure failure)) := by
  generalize shape : (Except.error (.failure failure) : Except Halt α) = result at exchange
  cases exchange with
  | denied asks denies =>
    cases shape
    exact ⟨_, _, rfl, asks, .inl ⟨_, denies, rfl⟩⟩
  | taken asks origin success =>
    exact ⟨_, _, rfl, asks, .inr ⟨_, rfl, origin, success, rfl⟩⟩
  | _ => cases shape

/-- A fault keeps the request from being sent or comes with its answer. -/
theorem faulted {fault : Fault}
    (exchange : client.Exchange method path parameter body take acts (.error (.fault fault))) :
    (acts = [] ∧ client.Blocks path parameter fault) ∨
      ∃ request answer, acts = [.request request answer] ∧
        client.Asks method path parameter body request ∧
        Faults take request.location answer fault := by
  generalize shape : (Except.error (.fault fault) : Except Halt α) = result at exchange
  cases exchange with
  | blocked blocks =>
    cases shape
    exact .inl ⟨rfl, blocks⟩
  | upset asks upsets =>
    cases shape
    exact .inr ⟨_, _, rfl, asks, .upset upsets⟩
  | denied => cases shape
  | taken asks origin success =>
    exact .inr ⟨_, _, rfl, asks, .taken origin success shape.symm⟩

end Exchange

/-- A request is sent at most once, and its reply is the response with its location. -/
theorem send_follows (client : Client) (method : Method) (path : String)
    (parameter : Option (String × String)) (body : Body) :
    (client.send method path parameter body).Follows
      (client.Exchange method path parameter body fun location response =>
        .ok { location, response }) := by
  intro events result run
  unfold send at run
  split at run
  · rename_i unlocated
    obtain ⟨rfl, rfl⟩ := Script.runs_halt_iff.mp run
    exact .blocked (.unlocated unlocated)
  rename_i location located
  split at run
  · rename_i unsendable
    obtain ⟨rfl, rfl⟩ := Script.runs_halt_iff.mp run
    exact .blocked (.unsendable located (by simpa using unsendable))
  rename_i sendable
  split at run
  · rename_i closed
    obtain ⟨rfl, rfl⟩ := Script.runs_halt_iff.mp run
    exact .blocked (.closed located (by simpa using sendable) closed)
  obtain ⟨answer, rest, rfl, answered⟩ := Script.runs_ask_iff.mp run
  have asks : client.Asks method path parameter body
      { method, location, authorization := client.authorization, body } :=
    ⟨location, located, rfl⟩
  cases answer with
  | failed reason =>
    obtain ⟨rfl, rfl⟩ := Script.runs_halt_iff.mp answered
    exact .denied asks (.unanswered reason)
  | fault fault =>
    obtain ⟨rfl, rfl⟩ := Script.runs_halt_iff.mp answered
    exact .upset asks (.connection fault)
  | response response =>
    cases origin : location.checkOrigin with
    | error error =>
      simp only [origin] at answered
      obtain ⟨rfl, rfl⟩ := Script.runs_halt_iff.mp answered
      exact .upset asks (.origin origin)
    | ok _ =>
      simp only [origin] at answered
      by_cases success : response.status = 200
      · rw [if_pos success] at answered
        obtain ⟨rfl, rfl⟩ := Script.runs_done_iff.mp answered
        exact .taken asks origin success
      · rw [if_neg success] at answered
        cases shown : response.text with
        | ok text =>
          simp only [shown] at answered
          obtain ⟨rfl, rfl⟩ := Script.runs_halt_iff.mp answered
          exact .denied asks (.status origin success shown)
        | error fault =>
          simp only [shown] at answered
          obtain ⟨rfl, rfl⟩ := Script.runs_halt_iff.mp answered
          exact .upset asks (.text origin success shown)

/-- What follows a reply without leaving acts is what is taken from it. -/
theorem send_bind_follows (client : Client) (method : Method) (path : String)
    (parameter : Option (String × String)) (body : Body) {next : Reply → Script α}
    {take : Url.Location → Response → Except Halt α}
    (takes : ∀ location response,
      (next { location, response }).Follows (Course.ends (take location response))) :
    ((client.send method path parameter body).bind next).Follows
      (client.Exchange method path parameter body take) := by
  have taking : ∀ reply : Reply,
      (next reply).Follows (Course.ends (take reply.location reply.response)) :=
    fun reply => takes reply.location reply.response
  refine (Script.Follows.bind (client.send_follows method path parameter body) taking).mono
    fun acts result follows => ?_
  cases follows with
  | stops stopped =>
    cases stopped with
    | blocked blocks => exact .blocked blocks
    | upset asks upsets => exact .upset asks upsets
    | denied asks denies => exact .denied asks denies
  | goes gave rest =>
    obtain ⟨rfl, rfl⟩ := rest
    obtain ⟨request, response, rfl, asks, origin, success, same⟩ := gave.gave
    cases same
    exact .taken asks origin success

/-! ## Records -/

/-- The record in the body of a response. -/
def recordIn (name : String) (read : Json.Value → Checked α) (location : Url.Location)
    (response : Response) : Except Halt α :=
  (decodeBody name read location.text response.body).mapError .failure

theorem recordIn_eq_ok_iff {name : String} {read : Json.Value → Checked α}
    {location : Url.Location} {response : Response} {record : α} :
    recordIn name read location response = .ok record ↔
      decode read response.body = .ok record := by
  unfold recordIn decodeBody
  cases decode read response.body with
  | ok found =>
    change Except.ok found = Except.ok record ↔ _
    simp
  | error defects => exact ⟨nofun, nofun⟩

/-- A body without a record is a malformed response. -/
theorem recordIn_eq_error_iff {name : String} {read : Json.Value → Checked α}
    {location : Url.Location} {response : Response} {reason : Halt} :
    recordIn name read location response = .error reason ↔
      ∃ defects, decode read response.body = .error defects ∧
        reason = .failure (.request (.malformedResponse
          s!"Could not decode {name} from {location.text}: {Defect.summary defects}")) := by
  unfold recordIn decodeBody
  cases decode read response.body with
  | ok found => exact ⟨nofun, fun ⟨_, impossible, _⟩ => by cases impossible⟩
  | error defects =>
    constructor
    · intro taken
      cases taken
      exact ⟨defects, rfl, rfl⟩
    · rintro ⟨_, same, rfl⟩
      cases same
      rfl

theorem recordIn_ne_fault {name : String} {read : Json.Value → Checked α}
    {location : Url.Location} {response : Response} {fault : Fault} :
    recordIn name read location response ≠ .error (.fault fault) := by
  intro taken
  obtain ⟨_, _, impossible⟩ := recordIn_eq_error_iff.mp taken
  cases impossible

theorem fetch_follows (client : Client) (name : String) (read : Json.Value → Checked α)
    (path : String) (parameter : Option (String × String)) :
    (client.fetch name read path parameter).Follows
      (client.Exchange .get path parameter .empty (recordIn name read)) :=
  client.send_bind_follows _ _ _ _ fun _ _ => Script.Follows.ofExcept _

/-- The creation of a run is one request, whose body names the pipeline. -/
theorem createRun_follows (client : Client) (request : RunRequest) :
    (client.createRun request).Follows
      (client.Exchange .post (apiRoot ++ "/runs") none (.json request.body)
        (recordIn "Run" Run.read)) :=
  Script.Follows.after_log fun _ =>
    client.send_bind_follows _ _ _ _ fun _ _ => Script.Follows.ofExcept _

/-- The failures that an answer brings to one who wants a record: those before its
body is read, and a body without the record. -/
inductive Fails (name : String) (read : Json.Value → Checked α) (method : Method) (path : String)
    (location : Url.Location) : Answer → RequestFailure → Prop where
  | denied {answer : Answer} {failure : RequestFailure} :
      Denies method path location answer failure →
        Fails name read method path location answer failure
  | malformed {response : Response} {defects : List Defect} :
      location.checkOrigin = .ok () → response.status = 200 →
        decode read response.body = .error defects →
          Fails name read method path location (.response response)
            (.malformedResponse
              s!"Could not decode {name} from {location.text}: {Defect.summary defects}")

/-- An answer that brings a failure reports no record. -/
theorem Fails.not_reports {name : String} {read : Json.Value → Checked α} {method : Method}
    {path : String} {location : Url.Location} {answer : Answer} {failure : RequestFailure}
    (fails : Fails name read method path location answer failure) (record : α) :
    ¬ Reports read answer record := by
  rintro ⟨response, rfl, success, reads⟩
  cases fails with
  | denied denies =>
    cases denies with
    | status _ other _ => exact other success
  | malformed _ _ defective =>
    rw [reads] at defective
    cases defective

/-- Neither does it bring a fault. -/
theorem Fails.not_upsets {name : String} {read : Json.Value → Checked α} {method : Method}
    {path : String} {location : Url.Location} {answer : Answer} {failure : RequestFailure}
    (fails : Fails name read method path location answer failure) (fault : Fault) :
    ¬ Upsets location answer fault := by
  cases fails with
  | denied denies => exact denies.not_upsets fault
  | malformed origin success => exact not_upsets_of_success origin success fault

/-- Whether what is taken from a response is a record or the failure to read it, a
fault apart. -/
structure Reads (take : Url.Location → Response → Except Halt α) (name : String)
    (read : Json.Value → Checked α) : Prop where
  ok : ∀ {location response record}, take location response = .ok record →
    decode read response.body = .ok record
  /-- A failure is that of a body without a record. -/
  failure : ∀ {location response failure}, take location response = .error (.failure failure) →
    ∃ defects, decode read response.body = .error defects ∧
      failure = .request (.malformedResponse
        s!"Could not decode {name} from {location.text}: {Defect.summary defects}")

theorem reads_recordIn (name : String) (read : Json.Value → Checked α) :
    Reads (recordIn name read) name read where
  ok := recordIn_eq_ok_iff.mp
  failure taken := by
    obtain ⟨defects, defective, same⟩ := recordIn_eq_error_iff.mp taken
    cases same
    exact ⟨defects, defective, rfl⟩

namespace Exchange

variable {client : Client} {method : Method} {path : String} {parameter : Option (String × String)}
  {body : Body} {take : Url.Location → Response → Except Halt α} {acts : List Act}
  {name : String} {read : Json.Value → Checked α}

/-- A record comes from one request whose answer reports it. -/
theorem reported {record : α} (reads : Reads take name read)
    (exchange : client.Exchange method path parameter body take acts (.ok record)) :
    ∃ request answer, acts = [.request request answer] ∧
      client.Asks method path parameter body request ∧
      Reports read answer record := by
  obtain ⟨request, response, rfl, asks, _, success, taken⟩ := exchange.gave
  exact ⟨request, _, rfl, asks, response, rfl, success, reads.ok taken⟩

/-- A failure comes from one request whose answer brings it. -/
theorem failed {failure : Failure} (reads : Reads take name read)
    (exchange : client.Exchange method path parameter body take acts (.error (.failure failure))) :
    ∃ request answer cause, acts = [.request request answer] ∧
      client.Asks method path parameter body request ∧
      Fails name read method path request.location answer cause ∧ failure = .request cause := by
  obtain ⟨request, answer, rfl, asks, ⟨cause, denies, rfl⟩ |
    ⟨response, rfl, origin, success, taken⟩⟩ := exchange.failing
  · exact ⟨request, answer, cause, rfl, asks, .denied denies, rfl⟩
  · obtain ⟨defects, defective, rfl⟩ := reads.failure taken
    exact ⟨request, _, _, rfl, asks, .malformed origin success defective, rfl⟩

/-- No fault comes with an answer that decides otherwise. -/
theorem not_faults {request : Request} {answer : Answer} {result : Except Halt α}
    (exchange : client.Exchange method path parameter body take [.request request answer] result)
    (unfaulted : ∀ fault, result ≠ .error (.fault fault)) (fault : Fault) :
    ¬ Faults take request.location answer fault := by
  intro faults
  cases exchange with
  | upset => exact unfaulted _ rfl
  | denied _ denies =>
    cases faults with
    | upset upsets => exact denies.not_upsets fault upsets
    | taken _ success =>
      cases denies with
      | status _ other => exact other success
  | taken _ origin success =>
    cases faults with
    | upset upsets => exact not_upsets_of_success origin success fault upsets
    | taken _ _ taken => exact unfaulted fault taken

/-- At most one request is sent. -/
theorem asked {result : Except Halt α}
    (exchange : client.Exchange method path parameter body take acts result) :
    ∀ act ∈ acts, ∃ request answer, act = .request request answer ∧
      client.Asks method path parameter body request := by
  intro act member
  cases exchange with
  | blocked => cases member
  | upset asks | denied asks | taken asks =>
    obtain rfl := List.mem_singleton.mp member
    exact ⟨_, _, rfl, asks⟩

end Exchange

/-- What is taken from a download view: the record, if the body is a text. -/
def viewIn (location : Url.Location) (response : Response) : Except Halt Artifact :=
  match response.text with
  | .ok _ => recordIn "ArtifactDetail" Artifact.read location response
  | .error fault => .error (.fault fault)

theorem reads_viewIn : Reads viewIn "ArtifactDetail" Artifact.read where
  ok taken := by
    unfold viewIn at taken
    split at taken
    · exact (reads_recordIn _ _).ok taken
    · cases taken
  failure taken := by
    unfold viewIn at taken
    split at taken
    · exact (reads_recordIn _ _).failure taken
    · cases taken

theorem viewIn_eq_fault_iff {location : Url.Location} {response : Response} {fault : Fault} :
    viewIn location response = .error (.fault fault) ↔ response.text = .error fault := by
  unfold viewIn
  split <;> rename_i shown
  · simp [shown, recordIn_ne_fault]
  · simp [shown]

/-- The download view of an artifact is one request. Its body is written to the
log before it is read, so it must be a text. -/
theorem getDownload_follows (client : Client) (artifactId : String) :
    (client.getDownload artifactId).Follows
      (client.Exchange .get (artifactPath artifactId) (some ("view", "DOWNLOAD")) .empty
        viewIn) := by
  refine client.send_bind_follows _ _ _ _ fun location response => ?_
  unfold viewIn
  cases shown : response.text with
  | ok text => exact Script.Follows.after_log fun _ => Script.Follows.ofExcept _
  | error fault => exact Script.Follows.halt ⟨rfl, rfl⟩

end Client

end ArtifactAudit.Platform
