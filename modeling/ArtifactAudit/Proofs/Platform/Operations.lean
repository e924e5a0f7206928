import ArtifactAudit.Proofs.Platform.Exchange

/-!
# Operations of several requests

The lookup of a pipeline and the wait for a run send requests of one kind, one
after another. They end with what the answers report, with the failure that the
last answer brings, with a failure of their own, or with a fault
(`findPipelineId_follows`, `waitForRun_follows`).
-/

set_option autoImplicit false

namespace ArtifactAudit.Platform.Client

variable {α β : Type}

/-! ## Requests of one kind -/

/-- Whether all acts are requests of a kind. -/
def Only (kind : Request → Prop) (acts : List Act) : Prop :=
  ∀ act ∈ acts, ∃ request answer, act = .request request answer ∧ kind request

theorem Only.nil {kind : Request → Prop} : Only kind [] := by
  intro act member
  cases member

theorem Only.append {kind : Request → Prop} {before after : List Act} (earlier : Only kind before)
    (later : Only kind after) : Only kind (before ++ after) := by
  intro act member
  rcases List.mem_append.mp member with member | member
  · exact earlier act member
  · exact later act member

theorem Only.single {kind : Request → Prop} {request : Request} {answer : Answer}
    (asks : kind request) : Only kind [.request request answer] := by
  intro act member
  obtain rfl := List.mem_singleton.mp member
  exact ⟨request, answer, rfl, asks⟩

/-- Requests of a kind that come to nothing: the last answer brings a failure, or
there is a fault. -/
inductive Breaks (kind : Request → Prop) (fails : Request → Answer → RequestFailure → Prop) :
    List Act → Halt → Prop where
  | failed (before : List Act) {request : Request} {answer : Answer} {cause : RequestFailure} :
      Only kind before → kind request → fails request answer cause →
        Breaks kind fails (before ++ [.request request answer]) (.failure (.request cause))
  | fault {acts : List Act} {fault : Fault} :
      Only kind acts → Breaks kind fails acts (.fault fault)

namespace Breaks

variable {kind : Request → Prop} {fails : Request → Answer → RequestFailure → Prop}

theorem only {acts : List Act} {reason : Halt} (breaks : Breaks kind fails acts reason) :
    Only kind acts := by
  cases breaks with
  | failed _ earlier asks _ => exact earlier.append (.single asks)
  | fault earlier => exact earlier

theorem prepend {before acts : List Act} {reason : Halt} (earlier : Only kind before)
    (breaks : Breaks kind fails acts reason) : Breaks kind fails (before ++ acts) reason := by
  cases breaks with
  | failed between more asks failing =>
    rw [← List.append_assoc]
    exact .failed (before ++ between) (earlier.append more) asks failing
  | fault between => exact .fault (earlier.append between)

end Breaks

/-- Whether the last act is a request whose answer reports a record. -/
def Ends (read : Json.Value → Checked α) (acts : List Act) (record : α) : Prop :=
  ∃ before request answer, acts = before ++ [.request request answer] ∧ Reports read answer record

namespace Ends

variable {read : Json.Value → Checked α} {acts : List Act} {record : α}

theorem single {request : Request} {answer : Answer} (reports : Reports read answer record) :
    Ends read [.request request answer] record :=
  ⟨[], request, answer, rfl, reports⟩

theorem prepend (ends : Ends read acts record) (before : List Act) :
    Ends read (before ++ acts) record := by
  obtain ⟨between, request, answer, rfl, reports⟩ := ends
  exact ⟨before ++ between, request, answer, by rw [List.append_assoc], reports⟩

/-- The last answer decides. -/
theorem reports (before : List Act) {request : Request} {answer : Answer}
    (ends : Ends read (before ++ [.request request answer]) record) :
    Reports read answer record := by
  obtain ⟨_, _, _, same, reports⟩ := ends
  cases List.append_inj_right' same rfl
  exact reports

theorem reports_single {request : Request} {answer : Answer}
    (ends : Ends read [.request request answer] record) : Reports read answer record :=
  reports [] ends

theorem ne_nil (ends : Ends read acts record) : acts ≠ [] := by
  obtain ⟨before, request, answer, rfl, _⟩ := ends
  simp

end Ends

/-- Requests that come to nothing with a failure end with no record. -/
theorem Breaks.not_ends {kind : Request → Prop} {name : String} {read : Json.Value → Checked α}
    {method : Method} {path : String} {acts : List Act} {failure : Failure}
    (breaks : Breaks kind (fun request => Fails name read method path request.location) acts
      (.failure failure)) (record : α) : ¬ Ends read acts record := by
  intro ends
  cases breaks with
  | failed _ _ _ fails => exact fails.not_reports record (ends.reports _)

/-- One request for a record of a kind either reports the record or comes to
nothing. -/
theorem Exchange.breaks {client : Client} {method : Method} {path : String}
    {parameter : Option (String × String)} {body : Body} {name : String}
    {read : Json.Value → Checked α} {take : Url.Location → Response → Except Halt α}
    {kind : Request → Prop} {acts : List Act} {reason : Halt} (reads : Reads take name read)
    (asking : ∀ request, client.Asks method path parameter body request → kind request)
    (exchange : client.Exchange method path parameter body take acts (.error reason)) :
    Breaks kind (fun request => Fails name read method path request.location) acts reason := by
  have only : Only kind acts := fun act member => by
    obtain ⟨request, answer, same, asks⟩ := exchange.asked act member
    exact ⟨request, answer, same, asking request asks⟩
  match reason with
  | .fault fault => exact .fault only
  | .failure failure =>
    obtain ⟨request, answer, cause, rfl, asks, fails, rfl⟩ := exchange.failed reads
    exact .failed [] Only.nil (asking request asks) fails

/-! ## Uploading a pipeline -/

/-- The course of an upload: the definition is read, and if it can be read it is
sent. -/
inductive Upload (client : Client) (submission : Submission) :
    List Act → Except Halt Unit → Prop where
  | unreadable (error : SystemError) :
      Upload client submission [.file submission.definition.text (.unreadable error)]
        (.error (.failure (.submission
          s!"Cannot read pipeline definition {submission.definition.text}: {error.text}" none)))
  | upset (fault : Fault) :
      Upload client submission [.file submission.definition.text (.fault fault)]
        (.error (.fault fault))
  | sent {bytes : List UInt8} {acts : List Act} {result : Except Halt Unit} :
      client.Exchange .post (apiRoot ++ "/pipelines/upload") (some ("name", submission.name))
          (.upload submission.definition.name bytes) (fun _ _ => .ok ()) acts result →
        Upload client submission
          (.file submission.definition.text (.content bytes) :: acts) result

theorem uploadPipeline_follows (client : Client) (submission : Submission) :
    (client.uploadPipeline submission).Follows (client.Upload submission) := by
  intro events result run
  obtain ⟨answer, rest, rfl, read⟩ := Script.runs_ask_iff.mp run
  cases answer with
  | fault fault =>
    obtain ⟨rfl, rfl⟩ := Script.runs_halt_iff.mp read
    exact .upset fault
  | unreadable error =>
    obtain ⟨rfl, rfl⟩ := Script.runs_halt_iff.mp read
    exact .unreadable error
  | content bytes =>
    refine .sent (Script.Follows.after_log (fun _ => ?_) _ _ read)
    exact client.send_bind_follows _ _ _ _ fun _ _ => Script.Follows.returns ()

/-- An upload is denied before the body of the answer is read. -/
theorem Exchange.refused {client : Client} {method : Method} {path : String}
    {parameter : Option (String × String)} {body : Body} {acts : List Act} {failure : Failure}
    (exchange : client.Exchange method path parameter body (fun _ _ => .ok ()) acts
      (.error (.failure failure))) :
    ∃ request answer cause, acts = [.request request answer] ∧
      client.Asks method path parameter body request ∧
      Denies method path request.location answer cause ∧ failure = .request cause := by
  obtain ⟨request, answer, rfl, asks, ⟨cause, denies, rfl⟩ | ⟨_, _, _, _, taken⟩⟩ :=
    exchange.failing
  · exact ⟨request, answer, cause, rfl, asks, denies, rfl⟩
  · cases taken

/-! ## Looking a pipeline up -/

/-- The path of the listing of pipelines. -/
def pipelinesPath : String := apiRoot ++ "/pipelines"

/-- Whether a request is one for a page of the listing of pipelines. -/
def AsksPage (client : Client) (request : Request) : Prop :=
  ∃ token : Option String,
    client.Asks .get pipelinesPath (token.map fun token => ("page_token", token)) .empty request

/-- Requests for pages that come to nothing. -/
abbrev PageBreaks (client : Client) : List Act → Halt → Prop :=
  Breaks client.AsksPage fun request =>
    Fails "PipelineListing" PipelineListing.read .get pipelinesPath request.location

/-- Whether a page among the answers lists a pipeline. -/
def Lists (acts : List Act) (pipeline : Pipeline) : Prop :=
  ∃ request answer listing, Act.request request answer ∈ acts ∧
    Reports PipelineListing.read answer listing ∧ pipeline ∈ listing.pipelines

theorem lists_append_iff {before after : List Act} {pipeline : Pipeline} :
    Lists (before ++ after) pipeline ↔ Lists before pipeline ∨ Lists after pipeline := by
  constructor
  · rintro ⟨request, answer, listing, member, reported⟩
    rcases List.mem_append.mp member with member | member
    · exact .inl ⟨request, answer, listing, member, reported⟩
    · exact .inr ⟨request, answer, listing, member, reported⟩
  · rintro (⟨request, answer, listing, member, reported⟩ |
      ⟨request, answer, listing, member, reported⟩)
    · exact ⟨request, answer, listing, List.mem_append_left after member, reported⟩
    · exact ⟨request, answer, listing, List.mem_append_right before member, reported⟩

theorem not_lists_nil {pipeline : Pipeline} : ¬ Lists [] pipeline := by
  rintro ⟨_, _, _, member, _⟩
  cases member

theorem lists_single_iff {request : Request} {answer : Answer} {listing : PipelineListing}
    {pipeline : Pipeline} (reports : Reports PipelineListing.read answer listing) :
    Lists [.request request answer] pipeline ↔ pipeline ∈ listing.pipelines := by
  constructor
  · rintro ⟨_, _, found, member, again, listed⟩
    cases List.mem_singleton.mp member
    rwa [reports.unique again]
  · intro listed
    exact ⟨request, answer, listing, List.mem_singleton_self _, reports, listed⟩

/-- The course of a listing: pages are requested, the last of them is reported, and
the pipelines are those on the pages. -/
inductive Listing (client : Client) : List Act → Except Halt (List Pipeline) → Prop where
  | complete {acts : List Act} {last : PipelineListing} {pipelines : List Pipeline} :
      Only client.AsksPage acts → Ends PipelineListing.read acts last →
        (∀ pipeline, pipeline ∈ pipelines ↔ Lists acts pipeline) →
          Listing client acts (.ok pipelines)
  | broke {acts : List Act} {reason : Halt} :
      client.PageBreaks acts reason → Listing client acts (.error reason)

theorem listPage_follows (client : Client) (token : Option String) :
    (client.listPage token).Follows
      (client.Exchange .get pipelinesPath (token.map fun token => ("page_token", token)) .empty
        (recordIn "PipelineListing" PipelineListing.read)) :=
  client.fetch_follows _ _ _ _

/-- The course of a listing that goes on after some pages. -/
def ListingAfter (client : Client) (pages : List Act) : Course (List Pipeline) :=
  fun acts result => client.Listing (pages ++ acts) result

/-- The course of a listing, by induction on the pages that may still be asked for: those that
were seen are carried along, with the pipelines on them. -/
theorem listFrom_follows (client : Client) (patience : Nat) (token : Option String)
    (pages : List Act) {listed : List Pipeline} (asked : Only client.AsksPage pages)
    (sources : ∀ pipeline, pipeline ∈ listed ↔ Lists pages pipeline) :
    (client.listFrom patience token listed).Follows (client.ListingAfter pages) := by
  induction patience generalizing token pages listed with
  | zero => exact Script.Follows.halt (.broke (.fault (asked.append Only.nil)))
  | succ patience ih =>
    intro events result run
    rcases Script.runs_bind_iff.mp run with
      ⟨listing, before, after, rfl, gave, rest⟩ | ⟨reason, rfl, stopped⟩
    · obtain ⟨request, answer, seen, asks, reports⟩ :=
        (client.listPage_follows token _ _ gave).reported (reads_recordIn _ _)
      have page : Only client.AsksPage (pages ++ [.request request answer]) :=
        asked.append (.single ⟨token, asks⟩)
      have more : ∀ pipeline, pipeline ∈ listed ++ listing.pipelines ↔
          Lists (pages ++ [.request request answer]) pipeline := fun pipeline => by
        rw [List.mem_append, sources, lists_append_iff, lists_single_iff reports]
      unfold ListingAfter
      rw [actsOf_append, seen, ← List.append_assoc]
      split at rest
      · obtain ⟨rfl, rfl⟩ := Script.runs_done_iff.mp rest
        rw [actsOf_nil, List.append_nil]
        exact .complete page ((Ends.single reports).prepend pages) more
      · exact ih _ _ page more _ _ rest
    · have breaks : client.PageBreaks _ _ :=
        (client.listPage_follows token _ _ stopped).breaks (reads_recordIn _ _)
          fun _ asks => ⟨token, asks⟩
      exact .broke (breaks.prepend asked)

theorem listPipelines_follows (client : Client) :
    client.listPipelines.Follows client.Listing :=
  client.listFrom_follows client.patience none [] Only.nil fun _ =>
    ⟨fun member => (by cases member), fun lists => absurd lists not_lists_nil⟩

/-- Whether the pages that were asked for show a pipeline with a name and this
identifier, and the last of them was reported. -/
def Finds (name : String) (acts : List Act) (pipelineId : String) : Prop :=
  (∃ last, Ends PipelineListing.read acts last) ∧
    ∃ pipeline, Lists acts pipeline ∧ pipeline.displayName = name ∧
      pipeline.pipelineId = pipelineId

/-- The course of a lookup: pages are requested, and the result is the identifier
of a listed pipeline with the name. -/
inductive Lookup (client : Client) (name : String) : List Act → Except Halt String → Prop where
  | found {acts : List Act} {pipelineId : String} :
      Only client.AsksPage acts → Finds name acts pipelineId →
        Lookup client name acts (.ok pipelineId)
  | missing {acts : List Act} {last : PipelineListing} :
      Only client.AsksPage acts → Ends PipelineListing.read acts last →
        (∀ pipeline, Lists acts pipeline → pipeline.displayName ≠ name) →
          Lookup client name acts
            (.error (.failure (.pipelineNotFound
              s!"No pipeline named '{name}' after {client.attempts} attempts")))
  | broke {acts : List Act} {reason : Halt} :
      client.PageBreaks acts reason → Lookup client name acts (.error reason)

/-- The course of a lookup that goes on after some pages. -/
def LookupAfter (client : Client) (name : String) (pages : List Act) : Course String :=
  fun acts result => client.Lookup name (pages ++ acts) result

/-- The course of a lookup that goes on after some pages and then a listing of some
pipelines. -/
def LookupPast (client : Client) (name : String) (pages : List Act) (pipelines : List Pipeline) :
    Course String :=
  fun acts result => ∀ before last, Only client.AsksPage before →
    Ends PipelineListing.read before last →
      (∀ pipeline, pipeline ∈ pipelines ↔ Lists before pipeline) →
        client.LookupAfter name (pages ++ before) acts result

/-- The course of a lookup, by induction on the attempts that are left: no page that was seen
shows a pipeline with the name, and without attempts left there has been one. -/
theorem findWithin_follows (client : Client) (name : String) (left : Nat) (pages : List Act)
    (asked : Only client.AsksPage pages)
    (unnamed : ∀ pipeline, Lists pages pipeline → pipeline.displayName ≠ name)
    (tried : left = 0 → ∃ last, Ends PipelineListing.read pages last) :
    (client.findWithin name left).Follows (client.LookupAfter name pages) := by
  induction left generalizing pages with
  | zero =>
    obtain ⟨last, ends⟩ := tried rfl
    refine Script.Follows.halt ?_
    unfold LookupAfter
    rw [List.append_nil]
    exact .missing asked ends unnamed
  | succ left ih =>
    refine (Script.Follows.bind client.listPipelines_follows
      (show ∀ pipelines, Script.Follows _ (client.LookupPast name pages pipelines) from
        fun pipelines => ?_)).mono
      fun acts result follows => ?_
    · cases found : pipelines.find? (·.displayName == name) with
      | some pipeline =>
        refine Script.Follows.after_log fun _ => Script.Follows.done ?_
        intro before last more ends sources
        unfold LookupAfter
        rw [List.append_nil]
        have listed := (sources pipeline).mp (List.mem_of_find?_eq_some found)
        exact .found (asked.append more)
          ⟨⟨last, ends.prepend pages⟩, pipeline, lists_append_iff.mpr (.inr listed),
            by simpa using List.find?_some found, rfl⟩
      | none =>
        refine Script.Follows.after_log fun _ => ?_
        have again : (client.findWithin name left).Follows
            (client.LookupPast name pages pipelines) := by
          intro events result run before last more ends sources
          refine ih (pages ++ before) (asked.append more) (fun pipeline lists => ?_)
            (fun _ => ⟨last, ends.prepend pages⟩) events result run
          rcases lists_append_iff.mp lists with lists | lists
          · exact unnamed pipeline lists
          · simpa using List.find?_eq_none.mp found pipeline ((sources pipeline).mpr lists)
        split
        · refine Script.Follows.after_sleep (fun fault before last more _ _ => ?_) fun _ => again
          unfold LookupAfter
          rw [List.append_nil]
          exact .broke (.fault (asked.append more))
        · exact again
    · cases follows with
      | stops stopped =>
        cases stopped with
        | broke breaks => exact .broke (breaks.prepend asked)
      | goes gave rest =>
        cases gave with
        | complete more ends sources =>
          have after := rest _ _ more ends sources
          unfold LookupAfter at after ⊢
          rwa [List.append_assoc] at after

theorem findPipelineId_follows (client : Client) (name : String) :
    (client.findPipelineId name).Follows (client.Lookup name) := by
  refine client.findWithin_follows name client.attempts [] Only.nil
    (fun _ lists => absurd lists not_lists_nil) fun impossible => ?_
  unfold attempts at impossible
  omega

/-! ## Waiting for a run -/

def runPath (runId : String) : String := apiRoot ++ "/runs/" ++ runId

def AsksRun (client : Client) (runId : String) (request : Request) : Prop :=
  client.Asks .get (runPath runId) none .empty request

/-- Requests for a run that come to nothing. -/
abbrev PollBreaks (client : Client) (runId : String) : List Act → Halt → Prop :=
  Breaks (client.AsksRun runId) fun request =>
    Fails "Run" Run.read .get (runPath runId) request.location

/-- How a report of a run ends the wait for it. -/
inductive Concludes (client : Client) (runId : String) (run : Run) : Except Halt Run → Prop where
  | succeeded : run.state = .succeeded → Concludes client runId run (.ok run)
  | ended :
      run.state.isTerminal = true → run.state ≠ .succeeded →
        Concludes client runId run (.error (.failure (.runFailed runId run.state.word)))
  | late :
      run.state.isTerminal = false →
        Concludes client runId run
          (.error (.failure (.runTimeout runId client.runTimeout (some run.state.word))))

/-- The course of a wait: the run is requested, and the last answer decides. -/
inductive Wait (client : Client) (runId : String) : List Act → Except Halt Run → Prop where
  /-- The last answer reports the run in a state that ends the wait. -/
  | concluded (before : List Act) {request : Request} {answer : Answer} {run : Run}
      {result : Except Halt Run} :
      Only (client.AsksRun runId) before → client.AsksRun runId request →
        Reports Run.read answer run → client.Concludes runId run result →
          Wait client runId (before ++ [.request request answer]) result
  | broke {acts : List Act} {reason : Halt} :
      client.PollBreaks runId acts reason → Wait client runId acts (.error reason)

namespace Wait

variable {client : Client} {runId : String}

theorem prepend {before acts : List Act} {result : Except Halt Run}
    (earlier : Only (client.AsksRun runId) before) (wait : client.Wait runId acts result) :
    client.Wait runId (before ++ acts) result := by
  cases wait with
  | concluded between more asks reports concludes =>
    rw [← List.append_assoc]
    exact .concluded (before ++ between) (earlier.append more) asks reports concludes
  | broke breaks => exact .broke (breaks.prepend earlier)

theorem only {acts : List Act} {result : Except Halt Run} (wait : client.Wait runId acts result) :
    Only (client.AsksRun runId) acts := by
  cases wait with
  | concluded _ earlier asks => exact earlier.append (.single asks)
  | broke breaks => exact breaks.only

end Wait

theorem pollUntil_follows (client : Client) (runId : String) (deadline : Float) (patience : Nat) :
    (client.pollUntil runId deadline patience).Follows (client.Wait runId) := by
  induction patience with
  | zero => exact Script.Follows.halt (.broke (.fault Only.nil))
  | succ patience ih =>
    refine (Script.Follows.bind (client.fetch_follows "Run" Run.read (runPath runId) none)
      (show ∀ run, Script.Follows _ fun acts result =>
          acts = [] ∧ client.Concludes runId run result ∨ client.Wait runId acts result from
        fun run => ?_)).mono fun acts result follows => ?_
    · split
      · rename_i terminal
        split
        · rename_i succeeded
          exact Script.Follows.after_log fun _ =>
            Script.Follows.done (.inl ⟨rfl, .succeeded succeeded⟩)
        · rename_i other
          exact Script.Follows.halt (.inl ⟨rfl, .ended terminal other⟩)
      · rename_i running
        refine Script.Follows.after_clock fun now => ?_
        split
        · exact Script.Follows.halt (.inl ⟨rfl, .late (by simpa using running)⟩)
        · exact Script.Follows.after_log fun _ =>
            Script.Follows.after_sleep (fun _ => .inr (.broke (.fault Only.nil))) fun _ =>
              ih.mono fun _ _ => .inr
    · cases follows with
      | stops stopped =>
        exact .broke (stopped.breaks (reads_recordIn _ _) fun _ asks => asks)
      | goes gave rest =>
        obtain ⟨request, answer, rfl, asks, reports⟩ := gave.reported (reads_recordIn _ _)
        rcases rest with ⟨rfl, concludes⟩ | wait
        · exact .concluded [] Only.nil asks reports concludes
        · exact wait.prepend (.single asks)

theorem waitForRun_follows (client : Client) (runId : String) :
    (client.waitForRun runId).Follows (client.Wait runId) :=
  Script.Follows.after_clock fun _ => client.pollUntil_follows runId _ _

/-! ## Listing artifacts -/

/-- The path of the listing of artifacts. -/
def artifactsPath : String := apiRoot ++ "/artifacts"

theorem listArtifacts_follows (client : Client) (deployment : String) :
    (client.listArtifacts deployment).Follows
      (Course.Next
        (client.Exchange .get artifactsPath (some ("namespace", deployment)) .empty
          (recordIn "ArtifactListing" ArtifactListing.read))
        fun listing => Course.ends (.ok listing.artifacts)) :=
  Script.Follows.bind (client.fetch_follows _ _ _ _) fun _ => Script.Follows.done ⟨rfl, rfl⟩

end ArtifactAudit.Platform.Client
