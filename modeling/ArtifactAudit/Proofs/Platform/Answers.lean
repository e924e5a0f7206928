import ArtifactAudit.Proofs.Platform.Exchange

/-!
# What an answer leads to

A request for a record that can be sent is sent, and what follows depends on the answer
alone (`fetch_eq`): a record, a failure or a fault, one of the three for each answer
(`answered_cases`).
-/

set_option autoImplicit false

namespace ArtifactAudit.Platform.Client

variable {α : Type}

/-- What an answer to a request for a record leads to. -/
def answered (name : String) (read : Json.Value → Checked α) (path : String)
    (location : Url.Location) : Answer → Except Halt α
  | .failed reason =>
    .error (.failure (.request (.transport s!"{Method.get.name} {path} failed: {reason}")))
  | .fault fault => .error (.fault fault)
  | .response response =>
    match location.checkOrigin with
    | .error error => .error (.fault (.value error.message))
    | .ok () =>
      if response.status = 200 then recordIn name read location response
      else
        match response.text with
        | .ok text =>
          .error (.failure
            (.request (.unexpectedStatus response.status location.text text)))
        | .error fault => .error (.fault fault)

/-- The request for a path under the base. -/
def getAt (client : Client) (location : Url.Location) : Request :=
  { method := .get, location, authorization := client.authorization, body := .empty }

variable {client : Client} {name : String} {read : Json.Value → Checked α} {path : String}
  {parameter : Option (String × String)} {location : Url.Location}

/-- A request that can be sent is sent, and its answer decides. -/
theorem fetch_eq (located : client.locate? path parameter = some location)
    (sendable : location.isSendable = true) (opened : client.closed = false) :
    client.fetch name read path parameter =
      .ask (.request (client.getAt location)) fun answer =>
        .ofSettled (answered name read path location answer) := by
  unfold fetch send
  rw [located]
  simp only [sendable, opened, Bool.not_true, Bool.false_eq_true, if_false]
  change Script.ask _ _ = _
  congr 1
  funext answer
  cases answer with
  | failed reason => rfl
  | fault fault => rfl
  | response response =>
    cases origin : location.checkOrigin with
    | error error => simp only [answered, origin]; rfl
    | ok _ =>
      by_cases success : response.status = 200
      · simp only [answered, origin, if_pos success]
        change Script.ofExcept (decodeBody name read location.text response.body) =
          .ofSettled ((decodeBody name read location.text response.body).mapError .failure)
        cases decodeBody name read location.text response.body with
        | ok record => rfl
        | error failure => rfl
      · simp only [answered, origin, if_neg success]
        cases response.text with
        | ok text => rfl
        | error fault => rfl

theorem answered_of_fails {answer : Answer} {failure : RequestFailure}
    (fails : Fails name read .get path location answer failure) :
    answered name read path location answer = .error (.failure (.request failure)) := by
  cases fails with
  | denied denies =>
    cases denies with
    | unanswered reason => rfl
    | status origin other shown => simp only [answered, origin, if_neg other, shown]
  | malformed origin success defective =>
    simp only [answered, origin, if_pos success]
    exact recordIn_eq_error_iff.mpr ⟨_, defective, rfl⟩

theorem answered_of_upsets {answer : Answer} {fault : Fault}
    (upsets : Upsets location answer fault) :
    answered name read path location answer = .error (.fault fault) := by
  cases upsets with
  | connection => rfl
  | origin broken => simp only [answered, broken]
  | text origin other shown => simp only [answered, origin, if_neg other, shown]

theorem answered_of_reports {answer : Answer} {record : α}
    (origin : location.checkOrigin = .ok ()) (reports : Reports read answer record) :
    answered name read path location answer = .ok record := by
  obtain ⟨response, rfl, success, reads⟩ := reports
  simp only [answered, origin, if_pos success]
  exact recordIn_eq_ok_iff.mpr reads

/-- An answer brings a failure or a fault, or it reports a record. -/
theorem answered_cases (name : String) (read : Json.Value → Checked α) (path : String)
    (location : Url.Location) (answer : Answer) :
    (∃ failure, Fails name read .get path location answer failure) ∨
      (∃ fault, Upsets location answer fault) ∨
        location.checkOrigin = .ok () ∧ ∃ record, Reports read answer record := by
  cases answer with
  | failed reason => exact .inl ⟨_, .denied (.unanswered reason)⟩
  | fault fault => exact .inr (.inl ⟨fault, .connection fault⟩)
  | response response =>
    cases origin : location.checkOrigin with
    | error error => exact .inr (.inl ⟨_, .origin origin⟩)
    | ok _ =>
      by_cases success : response.status = 200
      · cases reads : decode read response.body with
        | ok record => exact .inr (.inr ⟨rfl, record, response, rfl, success, reads⟩)
        | error defects => exact .inl ⟨_, .malformed origin success reads⟩
      · cases shown : response.text with
        | ok text => exact .inl ⟨_, .denied (.status origin success shown)⟩
        | error fault => exact .inr (.inl ⟨fault, .text origin success shown⟩)

/-- A record is what comes of an answer exactly if the answer reports it. -/
theorem answered_eq_ok_iff {answer : Answer} {record : α} :
    answered name read path location answer = .ok record ↔
      location.checkOrigin = .ok () ∧ Reports read answer record := by
  constructor
  · intro gave
    rcases answered_cases name read path location answer with
      ⟨failure, fails⟩ | ⟨fault, upsets⟩ | ⟨origin, found, reports⟩
    · rw [answered_of_fails fails] at gave
      cases gave
    · rw [answered_of_upsets upsets] at gave
      cases gave
    · rw [answered_of_reports origin reports] at gave
      cases gave
      exact ⟨origin, reports⟩
  · rintro ⟨origin, reports⟩
    exact answered_of_reports origin reports

/-! ## A client and a response -/

/-- A client for a platform under a path. -/
def nestedClient : Client where
  base := ⟨{ scheme := "http".toList, user := [], host := "api".toList, port := some 8888
             path := "/ds/".toList, query := none, fragment := none }⟩
  authorization := none
  pollInterval := 5
  lookupAttempts := 10
  runTimeout := 900

theorem nestedClient_made :
    ofConfig { apiUrl := "http://api:8888/ds" } = .ok nestedClient :=
  rfl

/-- A response with status 200 and a body. -/
def told (body : String) : Answer :=
  .response { status := 200, body := Utf8.encode body.toList, contentType := none }

end ArtifactAudit.Platform.Client
