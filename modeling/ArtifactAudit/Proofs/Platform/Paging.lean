import ArtifactAudit.Proofs.Platform.Addresses
import ArtifactAudit.Proofs.Platform.Polling

/-!
# Following the pages of a listing

The first page of the pipelines is asked for without a token, and every other one with the
token on the page before it (`tokenAt`). A listing goes on from page to page up to the
first one that closes it: the page names no other, or there is none to be had. What it
gives and which pages are asked for then follows for every sequence of answers
(`listPipelines_follows_tokens`).
-/

set_option autoImplicit false

namespace ArtifactAudit.Platform

/-! ## The token on a page -/

/-- The token on a page asks for another page exactly if it is a text with characters:
a missing one, null and the empty text ask for none. -/
theorem PipelineListing.continuation_of_read {fields : Fields} {page : PipelineListing}
    (reads : PipelineListing.read (.object fields) = .ok page) (token : String) :
    Client.PipelineListing.continuation? page = some token ↔
      fields.lookup "next_page_token" = some (.string token) ∧ token ≠ "" := by
  obtain ⟨⟨pipelines, held⟩, gave, rfl⟩ := Checked.exists_of_map_eq_ok reads
  have read : optional "next_page_token" none readOptionalText fields = .ok held :=
    (Checked.both_eq_ok gave).2
  unfold optional at read
  cases given : fields.lookup "next_page_token" with
  | none =>
    rw [given] at read
    obtain rfl := Except.ok.inj read
    simp [Client.PipelineListing.continuation?]
  | some value =>
    rw [given] at read
    cases value with
    | null =>
      obtain rfl := Except.ok.inj read
      simp [Client.PipelineListing.continuation?]
    | string text =>
      obtain rfl := Except.ok.inj read
      simp only [Client.PipelineListing.continuation?, Option.filter_eq_some_iff, Option.some.injEq,
        Json.Value.string.injEq, Bool.not_eq_true', String.isEmpty_eq_false_iff]
    | _ => cases read

namespace Client

/-! ## Pages in turn -/

/-- The page that an answer shows, if it shows one. -/
def pageIn? : Answer → Option PipelineListing
  | .response response =>
    if response.status = 200 then (decode PipelineListing.read response.body).toOption else none
  | _ => none

theorem pageIn?_eq_some_iff {answer : Answer} {page : PipelineListing} :
    pageIn? answer = some page ↔ Reports PipelineListing.read answer page := by
  cases answer with
  | response response =>
    simp only [pageIn?, Reports, Answer.response.injEq, exists_eq_left']
    split
    · rename_i success
      cases decode PipelineListing.read response.body with
      | ok found => simp [Except.toOption, success]
      | error defects => simp [Except.toOption]
    · rename_i other
      simp [other]
  | failed reason => simp [pageIn?, Reports]
  | fault fault => simp [pageIn?, Reports]

/-- The token that a page is asked for with when the answers come in turn: none for the
first page, and for each other one the token on the page before it. -/
def tokenAt (answers : Nat → Answer) : Nat → Option String
  | 0 => none
  | index + 1 => (pageIn? (answers index)).bind PipelineListing.continuation?

/-- The pipelines on the first pages, in the order of the pages. -/
def pipelinesOn (answers : Nat → Answer) (count : Nat) : List Pipeline :=
  (List.range count).flatMap fun index => (pageIn? (answers index)).elim [] (·.pipelines)

theorem pipelinesOn_succ {answers : Nat → Answer} {index : Nat} {page : PipelineListing}
    (reports : Reports PipelineListing.read (answers index) page) :
    pipelinesOn answers (index + 1) = pipelinesOn answers index ++ page.pipelines := by
  simp [pipelinesOn, List.range_succ, pageIn?_eq_some_iff.mpr reports]

/-- Whether a request asks for the page with a token. -/
def AsksFor (client : Client) (token : Option String) (request : Request) : Prop :=
  client.Asks .get pipelinesPath (token.map fun token => ("page_token", token)) .empty request

/-- Whether a request for the page with a token can be sent, and where it goes. -/
structure Admits (client : Client) (token : Option String) (location : Url.Location) : Prop where
  located :
    client.locate? pipelinesPath (token.map fun token => ("page_token", token)) = some location
  sendable : location.isSendable = true
  opened : client.closed = false

/-- Whether a fault keeps the page with a token from being asked for. -/
def Bars (client : Client) (token : Option String) (fault : Fault) : Prop :=
  client.Blocks pipelinesPath (token.map fun token => ("page_token", token)) fault

/-- Whether a page is asked for and shown. -/
def Shows (client : Client) (answers : Nat → Answer) (index : Nat) (page : PipelineListing) :
    Prop :=
  ∃ location, client.Admits (tokenAt answers index) location ∧ location.checkOrigin = .ok () ∧
    Reports PipelineListing.read (answers index) page

/-- Whether a page is shown that names another one. -/
def GoesOn (client : Client) (answers : Nat → Answer) (index : Nat) : Prop :=
  ∃ page next, client.Shows answers index page ∧
    PipelineListing.continuation? page = some next

/-- How a listing closes at a page, and how many pages were asked for: the page is shown
and names no other, its answer brings a failure or a fault, or it cannot be asked for. -/
inductive Closes (client : Client) (answers : Nat → Answer) (index : Nat) :
    (asked : Nat) → Except Halt (List Pipeline) → Prop
  | last {page : PipelineListing} :
      client.Shows answers index page → PipelineListing.continuation? page = none →
        Closes client answers index (index + 1) (.ok (pipelinesOn answers (index + 1)))
  | failed {location : Url.Location} {failure : RequestFailure} :
      client.Admits (tokenAt answers index) location →
        Fails "PipelineListing" PipelineListing.read .get pipelinesPath location (answers index)
          failure →
          Closes client answers index (index + 1) (.error (.failure (.request failure)))
  | upset {location : Url.Location} {fault : Fault} :
      client.Admits (tokenAt answers index) location → Upsets location (answers index) fault →
        Closes client answers index (index + 1) (.error (.fault fault))
  | barred {fault : Fault} :
      client.Bars (tokenAt answers index) fault →
        Closes client answers index index (.error (.fault fault))

section

variable {client : Client} {answers : Nat → Answer} {readings : Nat → Float} {index : Nat}

/-- A request can be sent, or a fault keeps it from being sent. -/
theorem admits_or_bars (client : Client) (token : Option String) :
    (∃ location, client.Admits token location) ∨ ∃ fault, client.Bars token fault := by
  cases located : client.locate? pipelinesPath (token.map fun token => ("page_token", token)) with
  | none => exact .inr ⟨_, .unlocated located⟩
  | some location =>
    cases sendable : location.isSendable with
    | false => exact .inr ⟨_, .unsendable located sendable⟩
    | true =>
      cases opened : client.closed with
      | true => exact .inr ⟨_, .closed located sendable opened⟩
      | false => exact .inl ⟨location, located, sendable, opened⟩

/-- A listing goes on at a page or closes there. -/
theorem goesOn_or_closes (client : Client) (answers : Nat → Answer) (index : Nat) :
    client.GoesOn answers index ∨ ∃ asked result, client.Closes answers index asked result := by
  rcases client.admits_or_bars (tokenAt answers index) with ⟨location, admits⟩ | ⟨fault, bars⟩
  · rcases answered_cases "PipelineListing" PipelineListing.read pipelinesPath location
      (answers index) with ⟨failure, fails⟩ | ⟨fault, upsets⟩ | ⟨origin, page, reports⟩
    · exact .inr ⟨_, _, .failed admits fails⟩
    · exact .inr ⟨_, _, .upset admits upsets⟩
    · have shows : client.Shows answers index page := ⟨location, admits, origin, reports⟩
      cases continues : PipelineListing.continuation? page with
      | none => exact .inr ⟨_, _, .last shows continues⟩
      | some next => exact .inl ⟨page, next, shows, continues⟩
  · exact .inr ⟨_, _, .barred bars⟩

theorem Closes.le_asked {asked : Nat} {result : Except Halt (List Pipeline)}
    (closes : client.Closes answers index asked result) : index ≤ asked := by
  cases closes <;> omega

theorem Admits.asks {token : Option String} {location : Url.Location}
    (admits : client.Admits token location) : client.AsksFor token (client.getAt location) :=
  ⟨location, admits.located, rfl⟩

theorem Admits.listPage_eq {token : Option String} {location : Url.Location}
    (admits : client.Admits token location) :
    client.listPage token = .ask (.request (client.getAt location)) fun answer =>
      .ofSettled (answered "PipelineListing" PipelineListing.read pipelinesPath location answer) :=
  fetch_eq admits.located admits.sendable admits.opened

theorem listPage_of_bars {token : Option String} {fault : Fault}
    (bars : client.Bars token fault) : client.listPage token = .crash fault := by
  unfold listPage fetch
  change Script.bind (client.send .get pipelinesPath _ .empty) _ = _
  rw [send_of_blocks bars]
  rfl

/-! ## From page to page -/

/-- A page that names another one is asked for with its token, and the listing goes on with
the next page after its pipelines. -/
theorem listFrom_goes (readings : Nat → Float) (goes : client.GoesOn answers index)
    (patience looks : Nat) :
    ∃ request, client.AsksFor (tokenAt answers index) request ∧
      (client.listFrom (patience + 1) (tokenAt answers index) (pipelinesOn answers index)).play
          (inTurn answers readings) (index, looks) =
        (client.listFrom patience (tokenAt answers (index + 1))
          (pipelinesOn answers (index + 1))).play (inTurn answers readings) (index + 1, looks) ∧
      (client.listFrom (patience + 1) (tokenAt answers index) (pipelinesOn answers index)).events
          (inTurn answers readings) (index, looks) =
        ⟨.request request, answers index⟩ ::
          (client.listFrom patience (tokenAt answers (index + 1))
            (pipelinesOn answers (index + 1))).events (inTurn answers readings)
              (index + 1, looks) := by
  obtain ⟨page, next, ⟨location, admits, origin, reports⟩, continues⟩ := goes
  have shown : answered "PipelineListing" PipelineListing.read pipelinesPath location
      (answers index) = .ok page := answered_of_reports origin reports
  have named : tokenAt answers (index + 1) = some next := by
    simp [tokenAt, pageIn?_eq_some_iff.mpr reports, continues]
  rw [pipelinesOn_succ reports, named]
  refine ⟨client.getAt location, admits.asks, ?_⟩
  simp only [listFrom, admits.listPage_eq, Bind.bind, Script.bind, Script.play, Script.events,
    inTurn, shown, Script.ofSettled, continues, and_self]

/-- At a page that closes it, a listing ends. -/
theorem listFrom_closes {asked : Nat} {result : Except Halt (List Pipeline)}
    (closes : client.Closes answers index asked result) (patience looks : Nat) :
    ((client.listFrom (patience + 1) (tokenAt answers index) (pipelinesOn answers index)).play
        (inTurn answers readings) (index, looks)).1 = result ∧
      List.Forall₂ client.AsksFor ((List.range' index (asked - index)).map (tokenAt answers))
        (requestsOf ((client.listFrom (patience + 1) (tokenAt answers index)
          (pipelinesOn answers index)).events (inTurn answers readings) (index, looks))) := by
  have one : List.range' index (index + 1 - index) = [index] := by simp
  cases closes with
  | last shows continues =>
    obtain ⟨location, admits, origin, reports⟩ := shows
    have shown : answered "PipelineListing" PipelineListing.read pipelinesPath location
        (answers index) = .ok _ := answered_of_reports origin reports
    rw [one, pipelinesOn_succ reports]
    simp only [listFrom, admits.listPage_eq, Bind.bind, Script.bind, Script.play, Script.events,
      inTurn, shown, Script.ofSettled, continues]
    exact ⟨rfl, .cons admits.asks .nil⟩
  | failed admits fails =>
    rw [one]
    simp only [listFrom, admits.listPage_eq, Bind.bind, Script.bind, Script.play, Script.events,
      inTurn, answered_of_fails fails, Script.ofSettled]
    exact ⟨trivial, .cons admits.asks .nil⟩
  | upset admits upsets =>
    rw [one]
    simp only [listFrom, admits.listPage_eq, Bind.bind, Script.bind, Script.play, Script.events,
      inTurn, answered_of_upsets upsets, Script.ofSettled]
    exact ⟨trivial, .cons admits.asks .nil⟩
  | barred bars =>
    rw [Nat.sub_self]
    simp only [listFrom, listPage_of_bars bars, Bind.bind, Script.crash, Script.bind,
      Script.play, Script.events]
    exact ⟨trivial, .nil⟩

/-- The first page that closes a listing decides, by induction on the pages in front of it. -/
theorem listFrom_decided (count index patience looks : Nat) {asked : Nat}
    {result : Except Halt (List Pipeline)} (patient : count < patience)
    (leads : ∀ i < count, client.GoesOn answers (index + i))
    (closes : client.Closes answers (index + count) asked result) :
    ((client.listFrom patience (tokenAt answers index) (pipelinesOn answers index)).play
        (inTurn answers readings) (index, looks)).1 = result ∧
      List.Forall₂ client.AsksFor ((List.range' index (asked - index)).map (tokenAt answers))
        (requestsOf ((client.listFrom patience (tokenAt answers index)
          (pipelinesOn answers index)).events (inTurn answers readings) (index, looks))) := by
  induction count generalizing index patience with
  | zero =>
    obtain ⟨patience, rfl⟩ : ∃ left, patience = left + 1 := ⟨patience - 1, by omega⟩
    exact listFrom_closes closes patience looks
  | succ count ih =>
    obtain ⟨patience, rfl⟩ : ∃ left, patience = left + 1 := ⟨patience - 1, by omega⟩
    have later : ∀ i, index + 1 + i = index + (i + 1) := fun i => by omega
    have here : client.GoesOn answers index := leads 0 (Nat.succ_pos count)
    obtain ⟨request, asks, plays, happens⟩ := listFrom_goes readings here patience looks
    obtain ⟨same, requests⟩ := ih (index + 1) patience (by omega)
      (fun i small => by
        rw [later]
        exact leads (i + 1) (Nat.succ_lt_succ small))
      (by rwa [later])
    have rest : asked - index = asked - (index + 1) + 1 := by
      have := closes.le_asked
      omega
    rw [plays, happens, rest, List.range'_succ, List.map_cons]
    exact ⟨same, .cons asks requests⟩

/-- As long as every page names another one, a listing goes on until its patience ends. -/
theorem listFrom_endless (patience index looks : Nat)
    (leads : ∀ i < patience, client.GoesOn answers (index + i)) :
    ((client.listFrom patience (tokenAt answers index) (pipelinesOn answers index)).play
      (inTurn answers readings) (index, looks)).1 = .error (.fault .outOfPatience) := by
  induction patience generalizing index with
  | zero => rfl
  | succ patience ih =>
    have here : client.GoesOn answers index := leads 0 (Nat.succ_pos patience)
    obtain ⟨_, _, plays, _⟩ := listFrom_goes readings here patience looks
    rw [plays]
    refine ih (index + 1) fun i small => ?_
    have later : index + 1 + i = index + (i + 1) := by omega
    rw [later]
    exact leads (i + 1) (Nat.succ_lt_succ small)

/-- Some page is the first to close a listing, unless every page names another one. -/
theorem exists_closes (client : Client) (answers : Nat → Answer) (patience : Nat) :
    (∃ last < patience, (∀ i < last, client.GoesOn answers i) ∧
      ∃ asked result, client.Closes answers last asked result) ∨
      ∀ i < patience, client.GoesOn answers i := by
  induction patience with
  | zero => exact .inr fun i small => absurd small (Nat.not_lt_zero i)
  | succ patience ih =>
    rcases ih with ⟨last, small, leads, closes⟩ | leads
    · exact .inl ⟨last, Nat.lt_succ_of_lt small, leads, closes⟩
    · rcases client.goesOn_or_closes answers patience with goes | closes
      · refine .inr fun i small => ?_
        rcases Nat.lt_succ_iff_lt_or_eq.mp small with before | rfl
        · exact leads i before
        · exact goes
      · exact .inl ⟨patience, Nat.lt_succ_self patience, leads, closes⟩

end

/-- For every sequence of answers: a listing follows the pages that name another one up to
the first page that closes it, and ends as that page says. Page for page it has asked with
the token of the page before, and what it gives are the pipelines of all pages in order. A
token that is missing, null or empty names no page. -/
theorem listPipelines_follows_tokens (client : Client) (answers : Nat → Answer)
    (readings : Nat → Float) :
    (∀ result, (client.listPipelines.play (inTurn answers readings) (0, 0)).1 = result ↔
      (∃ last < client.patience, (∀ i < last, client.GoesOn answers i) ∧
        ∃ asked, client.Closes answers last asked result) ∨
      (∀ i < client.patience, client.GoesOn answers i) ∧
        result = .error (.fault .outOfPatience)) ∧
    (∀ last < client.patience, (∀ i < last, client.GoesOn answers i) →
      ∀ asked result, client.Closes answers last asked result →
        List.Forall₂ client.AsksFor ((List.range asked).map (tokenAt answers))
          (requestsOf (client.listPipelines.events (inTurn answers readings) (0, 0)))) ∧
    ∀ fields page, PipelineListing.read (.object fields) = .ok page →
      ∀ token, PipelineListing.continuation? page = some token ↔
        fields.lookup "next_page_token" = some (.string token) ∧ token ≠ "" := by
  have decided : ∀ last < client.patience, (∀ i < last, client.GoesOn answers i) →
      ∀ asked result, client.Closes answers last asked result →
        (client.listPipelines.play (inTurn answers readings) (0, 0)).1 = result ∧
          List.Forall₂ client.AsksFor ((List.range asked).map (tokenAt answers))
            (requestsOf (client.listPipelines.events (inTurn answers readings) (0, 0))) := by
    intro last patient leads asked result closes
    rw [List.range_eq_range']
    exact listFrom_decided last 0 client.patience 0 patient (by simpa using leads)
      (by simpa using closes)
  refine ⟨fun result => ⟨fun plays => ?_, ?_⟩, ?_, fun _ _ reads token =>
    PipelineListing.continuation_of_read reads token⟩
  · rcases client.exists_closes answers client.patience with
      ⟨last, patient, leads, asked, ending, closes⟩ | leads
    · obtain rfl : ending = result :=
        (decided last patient leads asked ending closes).1.symm.trans plays
      exact .inl ⟨last, patient, leads, asked, closes⟩
    · exact .inr ⟨leads, plays.symm.trans
        (listFrom_endless client.patience 0 0 (by simpa using leads))⟩
  · rintro (⟨last, patient, leads, asked, closes⟩ | ⟨leads, rfl⟩)
    · exact (decided last patient leads asked result closes).1
    · exact listFrom_endless client.patience 0 0 (by simpa using leads)
  · exact fun last patient leads asked result closes =>
      (decided last patient leads asked result closes).2

/-- An answer with status 500 whose body is not in the form that its type names. -/
def unreadableAnswer : Answer :=
  .response
    { status := 500, body := Utf8.encode "zz".toList
      contentType := some "text/plain; charset=hex" }

/-- The answers of a platform whose first page names a second one, which is refused with
status 500 and a body that is not in the form that its type names. -/
def refusedPages : Nat → Answer
  | 0 => told "\x7b\"pipelines\":[\x7b\"pipeline_id\":\"1\"\x7d],\"next_page_token\":\"t\"\x7d"
  | _ => unreadableAnswer

/-- The first page that is refused may end a listing with a fault in place of a failure. -/
theorem listPipelines_faults_at_refused_page :
    nestedClient.GoesOn refusedPages 0 ∧
      (∃ response, refusedPages 1 = .response response ∧ response.status = 500) ∧
      (nestedClient.listPipelines.play (inTurn refusedPages slowReadings) (0, 0)).1 =
        .error (.fault .transform) := by
  have first : nestedClient.GoesOn refusedPages 0 :=
    ⟨⟨[⟨"1", ""⟩], some "t"⟩, "t", ⟨_, ⟨rfl, by decide, rfl⟩, rfl, ⟨_, rfl, rfl, rfl⟩⟩, rfl⟩
  have second : nestedClient.Closes refusedPages 1 2 (.error (.fault .transform)) :=
    .upset ⟨rfl, by decide, rfl⟩ (.text rfl (by decide) rfl)
  refine ⟨first, ⟨_, rfl, rfl⟩, (listFrom_decided 1 0 nestedClient.patience 0 (by decide) ?_
    second).1⟩
  intro i small
  obtain rfl : i = 0 := by omega
  exact first

end Client

end ArtifactAudit.Platform
