import ArtifactAudit.Proofs.Platform.Paging
import ArtifactAudit.Proofs.Url.Query

/-!
# Values in queries

Three operations put a text of the caller into the query of a request: the name of an
upload, the token of a page, and the deployment whose artifacts are listed. Whatever
characters it holds, the text is what the query is read as, and nothing else of the request
depends on it, unless the query is too long to be sent at all (`put_carries`). So in a
listing each page is asked for with the very token on the page before it.
-/

set_option autoImplicit false

namespace ArtifactAudit

/-- The request of an act, if it is one. -/
def Act.request? : Act → Option Platform.Request
  | request sent _ => some sent
  | _ => none

namespace Platform

open Url

/-! ## Questions -/

/-- The operations that put a text into the query of a request. -/
inductive Question where
  /-- The upload of a definition, for which the text is a name. -/
  | upload (definition : Path)
  /-- A page of the pipelines, for which the text is the token. -/
  | page
  /-- The artifacts of a deployment, for which the text is its name. -/
  | artifacts

namespace Question

def key : Question → String
  | upload _ => "name"
  | page => "page_token"
  | artifacts => "namespace"

def path : Question → String
  | upload _ => apiRoot ++ "/pipelines/upload"
  | page => Client.pipelinesPath
  | artifacts => Client.artifactsPath

def method : Question → Method
  | upload _ => .post
  | page | artifacts => .get

/-- What an answer gives. -/
abbrev Result : Question → Type
  | upload _ => Unit
  | page => PipelineListing
  | artifacts => List Artifact

/-- Whether what is sent along was there: a definition that is uploaded could be read. -/
def IsPrepared : Question → List Act → Prop
  | upload definition, acts => ∃ bytes, .file definition.text (.content bytes) ∈ acts
  | page, _ | artifacts, _ => True

/-- Whether the pair of the key and a value is short enough for a URL. -/
def Fits (question : Question) (value : String) : Prop :=
  (Form.parameter question.key value).length ≤ lengthLimit

instance (question : Question) (value : String) : Decidable (question.Fits value) :=
  inferInstanceAs (Decidable (_ ≤ _))

end Question

namespace Client

variable {α : Type} {client : Client} {question : Question} {value other : String}
  {request : Request}

/-- Puts a text into the query of an operation. -/
def put (client : Client) : (question : Question) → String → Script question.Result
  | .upload definition, name => client.uploadPipeline { name, definition }
  | .page, token => client.listPage (some token)
  | .artifacts, deployment => client.listArtifacts deployment

/-- Where the requests of an operation go, whatever is put into their query. -/
def place? (client : Client) (question : Question) : Option Location :=
  client.base.resolve? question.path.toList (some [])

/-- Whether an operation has a place under the base of the client to which requests can be
sent. -/
def HasPlace (client : Client) (question : Question) : Prop :=
  ∃ place, client.place? question = some place ∧ place.isSendable = true

instance (client : Client) (question : Question) : Decidable (client.HasPlace question) :=
  decidable_of_iff ((client.place? question).any Location.isSendable = true)
    (by unfold HasPlace; cases client.place? question <;> simp)

/-- Whether a request carries a value unchanged: it goes to the place of the operation, and
its query is read as the one pair of the key and the value. -/
structure Carries (client : Client) (question : Question) (value : String) (request : Request) :
    Prop where
  method : request.method = question.method
  location : ∃ place query, client.place? question = some place ∧
    request.location = { place with query := some query } ∧
      Form.pairs query = [(question.key.toList, some value.toList)]

/-- A value that fits is put at the end of the place, and no other has a location. -/
theorem locate?_parameter (client : Client) (question : Question) (value : String) :
    client.locate? question.path (some (question.key, value)) =
      if question.Fits value then
        (client.place? question).map fun place =>
          { place with query := some (Form.parameter question.key value) }
      else none := by
  rw [locate?, Option.map_some, Base.resolve?_some, encode_parameter]
  by_cases fits : question.Fits value
  · rw [if_pos fits, if_pos (isAcceptable_parameter_iff.mpr fits)]
    rfl
  · rw [if_neg fits, if_neg (mt isAcceptable_parameter_iff.mp fits)]

/-- The request with a value carries it. -/
theorem Asks.carries {body : Body}
    (asks : client.Asks question.method question.path (some (question.key, value)) body request) :
    client.Carries question value request := by
  obtain ⟨location, located, rfl⟩ := asks
  rw [locate?_parameter] at located
  split at located
  · obtain ⟨place, placed, rfl⟩ := Option.map_eq_some_iff.mp located
    exact ⟨rfl, place, _, placed, rfl, Form.pairs_parameter question.key value⟩
  · cases located

/-- What two requests carry shows in their queries alone. -/
theorem Carries.determines {again : Request} (carries : client.Carries question value request)
    (also : client.Carries question other again) :
    again.location.path = request.location.path ∧
      (again.location = request.location → other = value) := by
  obtain ⟨place, query, placed, located, read⟩ := carries.location
  obtain ⟨same, asked, placedAgain, locatedAgain, readAgain⟩ := also.location
  obtain rfl : place = same := Option.some.inj (placed.symm.trans placedAgain)
  rw [located, locatedAgain]
  refine ⟨rfl, fun alike => ?_⟩
  obtain rfl : asked = query := Option.some.inj (congrArg Location.query alike)
  rw [read] at readAgain
  exact (String.toList_inj.mp (by simpa using readAgain)).symm

theorem query_of_place? {place : Location} (placed : client.place? question = some place) :
    place.query = some [] := by
  have empty : isAcceptable [] = true := by decide
  have again := Base.resolve?_some client.base question.path.toList []
  rw [if_pos empty, ← place?, placed] at again
  exact congrArg Location.query (Option.some.inj again)

/-- A request with a value can be sent exactly if the value fits and the operation has a
place. -/
theorem reaches_parameter_iff :
    client.Reaches question.path (some (question.key, value)) ↔
      question.Fits value ∧ client.HasPlace question := by
  unfold Reaches HasPlace
  rw [locate?_parameter]
  constructor
  · rintro ⟨location, located, sendable⟩
    split at located
    · rename_i fits
      obtain ⟨place, placed, rfl⟩ := Option.map_eq_some_iff.mp located
      have back := @Location.isSendable_of_query _ (some []) sendable (by simp)
      rw [← query_of_place? placed] at back
      exact ⟨fits, place, placed, back⟩
    · cases located
  · rintro ⟨fits, place, placed, sendable⟩
    rw [if_pos fits, placed]
    refine ⟨_, rfl, Location.isSendable_of_query sendable fun asked same c among => ?_⟩
    obtain rfl := Option.some.inj (Option.mem_def.mp same)
    exact isAscii_of_mem_parameter among

/-! ## What is sent -/

/-- A request that cannot be built and written down is blocked. -/
theorem exists_blocks {path : String} {parameter : Option (String × String)}
    (unreached : ¬ client.Reaches path parameter) :
    ∃ fault, client.Blocks path parameter fault := by
  cases located : client.locate? path parameter with
  | none => exact ⟨_, .unlocated located⟩
  | some location =>
    refine ⟨_, .unsendable located (Bool.eq_false_iff.mpr fun sendable => ?_)⟩
    exact unreached ⟨location, located, sendable⟩

/-- What goes on without acts sends the request in front exactly if it can be sent. -/
theorem send_bind_requests {method : Method} {path : String}
    {parameter : Option (String × String)} {body : Body} {next : Reply → Script α}
    (opened : client.closed = false)
    (silent : ∀ reply, (next reply).Follows fun acts _ => acts = []) :
    ((client.send method path parameter body).bind next).Follows fun acts _ =>
      (client.Reaches path parameter ∧ ∃ request answer, acts = [.request request answer] ∧
        client.Asks method path parameter body request) ∨
      ¬ client.Reaches path parameter ∧ acts = [] := by
  by_cases reaches : client.Reaches path parameter
  · obtain ⟨location, located, sendable⟩ := reaches
    refine (send_bind_sends located sendable opened silent).mono fun acts _ sends => ?_
    obtain ⟨request, answer, shown, same⟩ := sends
    exact .inl ⟨⟨location, located, sendable⟩, request, answer, shown, location, located, same⟩
  · obtain ⟨fault, blocks⟩ := exists_blocks reaches
    rw [send_of_blocks blocks]
    exact Script.Follows.halt (.inr ⟨reaches, rfl⟩)

/-- The course of an operation with a value: if it is prepared, the value fits and there is a
place for it, one request is sent, which carries the value, and otherwise none. -/
inductive Putting (client : Client) (question : Question) (value : String) :
    List Act → Except Halt α → Prop where
  | sent {acts : List Act} {result : Except Halt α} {request : Request} :
      question.IsPrepared acts → question.Fits value → client.HasPlace question →
        acts.filterMap Act.request? = [request] → client.Carries question value request →
          Putting client question value acts result
  | unsent {acts : List Act} {result : Except Halt α} :
      ¬ (question.IsPrepared acts ∧ question.Fits value ∧ client.HasPlace question) →
        acts.filterMap Act.request? = [] → Putting client question value acts result

/-- Once an operation is prepared, it comes down to its request. -/
theorem putting_of_send {body : Body} {next : Reply → Script α} (question : Question)
    (front : List Act) (opened : client.closed = false) (quiet : front.filterMap Act.request? = [])
    (prepared : ∀ acts, question.IsPrepared (front ++ acts))
    (silent : ∀ reply, (next reply).Follows fun acts _ => acts = []) :
    ((client.send question.method question.path (some (question.key, value)) body).bind
      next).Follows fun acts result => client.Putting question value (front ++ acts) result := by
  refine (send_bind_requests opened silent).mono fun acts result follows => ?_
  rcases follows with ⟨reaches, request, answer, rfl, asks⟩ | ⟨unreached, rfl⟩
  · obtain ⟨fits, placed⟩ := reaches_parameter_iff.mp reaches
    refine .sent (prepared _) fits placed ?_ asks.carries
    rw [List.filterMap_append, quiet]
    rfl
  · refine .unsent (fun ⟨_, reaches⟩ => unreached (reaches_parameter_iff.mpr reaches)) ?_
    rw [List.append_nil, quiet]

theorem put_follows (opened : client.closed = false) (question : Question) (value : String) :
    (client.put question value).Follows (client.Putting question value) := by
  cases question with
  | page =>
    exact putting_of_send .page [] opened rfl (fun _ => trivial) fun _ => ofExcept_silent _
  | artifacts =>
    change ((Script.bind (client.send _ _ _ _) _).bind _).Follows _
    rw [Script.bind_assoc]
    refine putting_of_send .artifacts [] opened rfl (fun _ => trivial) fun reply => ?_
    refine (Script.Follows.bind (ofExcept_silent _) fun _ => Script.Follows.returns _).mono ?_
    rintro acts result (stopped | ⟨rfl, rest⟩)
    · exact stopped
    · exact rest.1
  | upload definition =>
    intro events result run
    obtain ⟨answer, rest, rfl, read⟩ := Script.runs_ask_iff.mp run
    have unread : ∀ answer, (∀ bytes, answer ≠ .content bytes) →
        client.Putting (.upload definition) value [.file definition.text answer] result := by
      intro answer other
      refine .unsent ?_ rfl
      rintro ⟨⟨bytes, among⟩, _⟩
      cases List.mem_singleton.mp among
      exact other bytes rfl
    cases answer with
    | fault fault =>
      obtain ⟨rfl, rfl⟩ := Script.runs_halt_iff.mp read
      exact unread (.fault fault) nofun
    | unreadable error =>
      obtain ⟨rfl, rfl⟩ := Script.runs_halt_iff.mp read
      exact unread (.unreadable error) nofun
    | content bytes =>
      have sends : ∀ _ : Unit, (discard <| client.send .post (apiRoot ++ "/pipelines/upload")
          (some ("name", value)) (.upload definition.name bytes)).Follows fun acts result =>
            client.Putting (.upload definition) value
              (.file definition.text (.content bytes) :: acts) result := fun _ =>
        putting_of_send (.upload definition) [.file definition.text (.content bytes)] opened rfl
          (fun _ => ⟨bytes, List.mem_cons_self⟩) fun _ => Script.Follows.done rfl
      exact Script.Follows.after_log sends _ _ read

/-! ## From page to page -/

/-- Whether a request follows another in a listing: it carries the token on the page that
answered the other one. -/
inductive Continues (client : Client) : Act → Act → Prop where
  | next {asked request : Request} {answer reply : Answer} {page : PipelineListing}
      {token : String} :
      Reports PipelineListing.read answer page →
        PipelineListing.continuation? page = some token → client.Carries .page token request →
          Continues client (.request asked answer) (.request request reply)

/-- Whether the first of some acts asks for the page with a token. -/
def OpensWith (client : Client) (token : Option String) (acts : List Act) : Prop :=
  ∀ act ∈ acts.head?, ∃ request answer, act = .request request answer ∧
    client.AsksFor token request

/-- At most one request is sent, and it is the one. -/
theorem Exchange.opensWith {token : Option String} {take : Location → Response → Except Halt α}
    {acts : List Act} {result : Except Halt α}
    (exchange : client.Exchange .get pipelinesPath (token.map fun token => ("page_token", token))
      .empty take acts result) : client.OpensWith token acts ∧ acts.IsChain client.Continues := by
  refine ⟨fun act first => exchange.asked act (List.mem_of_mem_head? first), ?_⟩
  cases exchange with
  | blocked => exact .nil
  | upset | denied | taken => exact .singleton _

/-- A listing asks for its first page, and for each other one with the token on the page
before it. -/
theorem listFrom_continues (client : Client) (patience : Nat) (token : Option String)
    (listed : List Pipeline) : (client.listFrom patience token listed).Follows fun acts _ =>
      client.OpensWith token acts ∧ acts.IsChain client.Continues := by
  induction patience generalizing token listed with
  | zero => exact Script.Follows.halt ⟨by simp [OpensWith], .nil⟩
  | succ patience ih =>
    intro events result run
    rcases Script.runs_bind_iff.mp run with
      ⟨page, before, after, rfl, gave, rest⟩ | ⟨reason, rfl, stopped⟩
    · have exchange := client.listPage_follows token _ _ gave
      obtain ⟨request, answer, seen, asks, reports⟩ := exchange.reported (reads_recordIn _ _)
      rw [actsOf_append, seen]
      have opens : client.OpensWith token (.request request answer :: actsOf after) := by
        rintro act first
        obtain rfl := Option.some.inj (Option.mem_def.mp first)
        exact ⟨request, answer, rfl, asks⟩
      refine ⟨opens, ?_⟩
      split at rest
      · obtain ⟨rfl, rfl⟩ := Script.runs_done_iff.mp rest
        exact .singleton _
      · rename_i next continues
        obtain ⟨opensNext, chain⟩ := ih (some next) _ _ _ rest
        refine List.isChain_cons.mpr ⟨fun act first => ?_, chain⟩
        obtain ⟨later, reply, rfl, asksNext⟩ := opensNext act first
        have carries : client.Carries .page next later := Asks.carries asksNext
        exact .next reports continues carries
    · exact (client.listPage_follows token _ _ stopped).opensWith

/-- For every base URL and every text: a name, a token or a deployment is sent in one request
whose query is read as the one pair of the key and the text, exactly if that pair is short
enough and the operation has a place under the base. But for the query the location does not
depend on the text, and different texts give different requests. In a listing each page but
the first is asked for with the token on the page before it. -/
theorem put_carries {config : PlatformConfig} {patience : Nat} {client : Client}
    (made : ofConfig config patience = .ok client) :
    (∀ question value, (client.put question value).Follows (client.Putting question value)) ∧
    (∀ question value other request again, client.Carries question value request →
      client.Carries question other again →
        again.location.path = request.location.path ∧
          (again.location = request.location → other = value)) ∧
    client.listPipelines.Follows fun acts _ =>
      client.OpensWith none acts ∧ acts.IsChain client.Continues := by
  obtain ⟨_, opened⟩ := of_ofConfig made
  exact ⟨fun question value => put_follows opened question value,
    fun _ _ _ _ _ carries also => carries.determines also,
    client.listFrom_continues client.patience none []⟩

/-- A deployment with all the signs that queries give a meaning to. -/
theorem put_carries_signs :
    ofConfig { apiUrl := "http://api:8888/ds" } = .ok nestedClient ∧
      (nestedClient.listArtifacts "a&b=c+d%41#/? é").Follows fun acts _ =>
        ∃ request, acts.filterMap Act.request? = [request] ∧
          nestedClient.Carries .artifacts "a&b=c+d%41#/? é" request := by
  refine ⟨nestedClient_made, fun events result run => ?_⟩
  cases (put_carries nestedClient_made).1 .artifacts "a&b=c+d%41#/? é" events result run with
  | sent _ _ _ asked carries => exact ⟨_, asked, carries⟩
  | unsent otherwise => exact absurd ⟨trivial, by decide, by decide⟩ otherwise

/-- A deployment whose name is too long for a URL. -/
def longName : String :=
  String.ofList (List.replicate lengthLimit 'a')

/-- A name that is too long is not sent at all. -/
theorem listArtifacts_refuses_long_name :
    ofConfig { apiUrl := "http://api:8888/ds" } = .ok nestedClient ∧
      nestedClient.base.location.query = none ∧ nestedClient.base.location.fragment = none ∧
        nestedClient.HasPlace .artifacts ∧
          nestedClient.listArtifacts longName = .crash .invalidUrl := by
  have long : ¬ Question.artifacts.Fits longName := by
    have bound := Form.length_le_parameter "namespace" longName
    have length : longName.length = lengthLimit := by
      rw [longName, String.length_ofList, List.length_replicate]
    rw [length] at bound
    change ¬ (Form.parameter "namespace" longName).length ≤ lengthLimit
    omega
  have unlocated : nestedClient.locate? (apiRoot ++ "/artifacts") (some ("namespace", longName)) =
      none := (nestedClient.locate?_parameter .artifacts longName).trans (if_neg long)
  refine ⟨nestedClient_made, rfl, rfl, by decide, ?_⟩
  change Script.bind (Script.bind (nestedClient.send .get _ _ .empty) _) _ = _
  rw [send_of_blocks (.unlocated unlocated)]
  rfl

end Client

end Platform

end ArtifactAudit
