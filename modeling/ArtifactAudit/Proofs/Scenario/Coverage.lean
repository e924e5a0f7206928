import ArtifactAudit.Proofs.Platform.Answers
import ArtifactAudit.Proofs.Platform.Operations
import ArtifactAudit.Proofs.Scenario.Verdict
import ArtifactAudit.Proofs.Script.Observation
import ArtifactAudit.Proofs.Url.Base

/-!
# What a report covers

A platform that pages its listings names the next page on each page but the last
(`Chain`). The artifacts are listed with a single request, so the listing is the first
page, and a report covers the artifacts of that page and no others
(`listing_is_first_page`).
-/

set_option autoImplicit false

namespace ArtifactAudit

namespace Platform

/-! ## Paged listings -/

/-- A page of the listing of artifacts. -/
structure ArtifactPage where
  artifacts : List Artifact
  /-- What asks for the next page. -/
  nextPageToken : Option String
  deriving DecidableEq, Repr

/-- The token that asks for the page after this one, if there is one. -/
def ArtifactPage.continuation? (page : ArtifactPage) : Option String :=
  page.nextPageToken.filter (!·.isEmpty)

/-- Whether an answer shows a page: its artifacts, and the token as listings of pipelines
show it. -/
def ShowsPage (answer : Answer) (page : ArtifactPage) : Prop :=
  Reports ArtifactListing.read answer { artifacts := page.artifacts } ∧
    Reports (readRecord (optional "next_page_token" none readOptionalText)) answer
      page.nextPageToken

/-- The pages from a token on, each but the last with the token of the next. -/
inductive Chain (pages : Option String → ArtifactPage) : Option String → List ArtifactPage → Prop
  | last {token : Option String} :
      (pages token).continuation? = none → Chain pages token [pages token]
  | more {token : Option String} {next : String} {rest : List ArtifactPage} :
      (pages token).continuation? = some next → Chain pages (some next) rest →
        Chain pages token (pages token :: rest)

theorem Chain.head {pages : Option String → ArtifactPage} {token : Option String}
    {all : List ArtifactPage} (chain : Chain pages token all) :
    ∃ rest, all = pages token :: rest := by
  cases chain with
  | last => exact ⟨[], rfl⟩
  | more => exact ⟨_, rfl⟩

namespace Client

/-- The query for a page of the artifacts of a deployment. -/
def artifactsQuery (deployment : String) : Option String → List Char
  | none => Form.parameter "namespace" deployment
  | some token =>
    Form.parameter "namespace" deployment ++ '&' :: Form.parameter "page_token" token

/-- Whether a request is one for the page with a token. -/
def AsksArtifacts (client : Client) (deployment : String) (token : Option String)
    (request : Request) : Prop :=
  ∃ location,
    client.base.resolve? artifactsPath.toList (some (artifactsQuery deployment token)) =
        some location ∧
      request = client.getAt location

/-- Whether a world shows the pages of the listing of artifacts on request. -/
def ServesPages {σ : Type} (client : Client) (deployment : String)
    (pages : Option String → ArtifactPage) (world : World σ) : Prop :=
  ∀ token request state, client.AsksArtifacts deployment token request →
    ShowsPage (world (.request request) state).1 (pages token)

section

variable {σ : Type} {client : Client} {deployment : String}
  {pages : Option String → ArtifactPage} {world : World σ} {location : Url.Location}

/-- The artifacts are listed with one request, and the listing is the first page. -/
theorem listArtifacts_of_serves (serves : client.ServesPages deployment pages world)
    (located : client.locate? artifactsPath (some ("namespace", deployment)) = some location)
    (sendable : location.isSendable = true) (opened : client.closed = false)
    (origin : location.checkOrigin = .ok ()) (start : σ) :
    ((client.listArtifacts deployment).play world start).1 = .ok (pages none).artifacts ∧
      requestsOf ((client.listArtifacts deployment).events world start) =
        [client.getAt location] := by
  have shows := (serves none (client.getAt location) start ⟨location, located, rfl⟩).1
  have told : answered "ArtifactListing" ArtifactListing.read artifactsPath location
      (world (.request (client.getAt location)) start).1 =
        .ok { artifacts := (pages none).artifacts } :=
    answered_of_reports origin shows
  have listing : client.listArtifacts deployment =
      (client.fetch "ArtifactListing" ArtifactListing.read artifactsPath
        (some ("namespace", deployment))).bind fun listing => .done listing.artifacts := rfl
  rw [listing, fetch_eq located sendable opened]
  simp only [Script.bind, Script.play, Script.events, told, Script.ofSettled]
  exact ⟨trivial, rfl⟩

end

end Client

/-- The first page is all there is exactly if no other page has an artifact. -/
theorem Chain.first_eq_all_iff {pages : Option String → ArtifactPage} {token : Option String}
    {all : List ArtifactPage} (chain : Chain pages token all) :
    (pages token).artifacts = all.flatMap (·.artifacts) ↔
      ∀ page ∈ all.tail, page.artifacts = [] := by
  obtain ⟨rest, rfl⟩ := chain.head
  rw [List.flatMap_cons, List.self_eq_append_right, List.flatMap_eq_nil_iff, List.tail_cons]

end Platform

namespace Scenario.Verifier

open Platform Platform.Client

section

variable {verifier : Verifier} {acts : List Act} {report : Report}

/-- The listing that a report rests on was reported. -/
theorem Prepared.exists_listing {setup : List Act} {artifacts : List Artifact}
    (prepared : verifier.Prepared report setup artifacts) :
    ∃ request answer, .request request answer ∈ setup ∧ verifier.AsksArtifacts request ∧
      Reports ArtifactListing.read answer { artifacts } := by
  cases prepared with
  | vacuous before asks reports => exact ⟨_, _, by simp, asks, reports⟩
  | located before asks reports => exact ⟨_, _, by simp, asks, reports⟩

/-- The outcomes of a report are those of the artifacts of a listing that was reported. -/
theorem exists_listing_of_stages (stages : verifier.Stages verifier.Checking acts (.ok report)) :
    ∃ request answer artifacts, .request request answer ∈ acts ∧ verifier.AsksArtifacts request ∧
      Reports ArtifactListing.read answer { artifacts } ∧
      report.outcomes.map (·.artifactId) = artifacts.map (·.artifactId) := by
  obtain ⟨setup, artifacts, checks, rfl, prepared, checked, settled, courses⟩ :=
    prepared_of_stages stages
  obtain ⟨request, answer, seen, asks, reports⟩ := prepared.exists_listing
  refine ⟨request, answer, artifacts, by simp [seen], asks, reports, ?_⟩
  rw [← checked]
  refine CheckRecord.map_artifactId_of_outcomes settled fun check member outcome ended => ?_
  obtain ⟨_, _, _, same, judges⟩ := judged_of_checked settled courses check member
  rw [ended] at same
  cases same
  exact judges.identified

end

variable {σ : Type} {verifier : Verifier} {pages : Option String → ArtifactPage} {world : World σ}

/-- A report has the artifacts of the first page. -/
theorem outcomes_of_serves
    (serves : verifier.client.ServesPages verifier.config.deployment pages world) {start : σ}
    {current : State} {report : Report}
    (returned : ((verifier.run current).play world start).1 = .ok report) :
    report.outcomes.map (·.artifactId) = (pages none).artifacts.map (·.artifactId) := by
  have stages := verifier.stages_play current world start
  rw [returned] at stages
  obtain ⟨request, answer, artifacts, seen, asks, reports, same⟩ := exists_listing_of_stages stages
  obtain ⟨state, answered⟩ :=
    Script.answered_of_mem_events (mem_of_request_mem_actsOf seen)
  have shows := (serves none request state asks).1
  change answer = _ at answered
  rw [← answered] at shows
  cases reports.unique shows
  exact same

/-- On a platform that pages its listings, for every chain of pages: the artifacts are
listed with one request, and the listing is the first page. It is all there is exactly if
no other page has an artifact, and a report covers all artifacts exactly if the first page
has the identifiers of the others. -/
theorem listing_is_first_page
    (serves : verifier.client.ServesPages verifier.config.deployment pages world)
    {location : Url.Location}
    (located : verifier.client.locate? artifactsPath
      (some ("namespace", verifier.config.deployment)) = some location)
    (sendable : location.isSendable = true) (opened : verifier.client.closed = false)
    (origin : location.checkOrigin = .ok ()) {all : List ArtifactPage}
    (chain : Chain pages none all) (start : σ) :
    let listing := verifier.client.listArtifacts verifier.config.deployment
    (listing.play world start).1 = .ok (pages none).artifacts ∧
      requestsOf (listing.events world start) = [verifier.client.getAt location] ∧
      ((pages none).artifacts = all.flatMap (·.artifacts) ↔
        ∀ page ∈ all.tail, page.artifacts = []) ∧
      ∀ current report, ((verifier.run current).play world start).1 = .ok report →
        ((∀ page ∈ all, ∀ artifact ∈ page.artifacts,
            artifact.artifactId ∈ report.outcomes.map (·.artifactId)) ↔
          ∀ page ∈ all.tail, ∀ artifact ∈ page.artifacts,
            artifact.artifactId ∈ (pages none).artifacts.map (·.artifactId)) := by
  obtain ⟨listed, asked⟩ := listArtifacts_of_serves serves located sendable opened origin start
  refine ⟨listed, asked, chain.first_eq_all_iff, fun current report returned => ?_⟩
  rw [outcomes_of_serves serves returned]
  obtain ⟨rest, rfl⟩ := chain.head
  rw [List.forall_mem_cons, List.tail_cons]
  exact and_iff_right fun artifact among => List.mem_map_of_mem among

/-! ## A platform with two pages -/

/-- The artifact `a` is on the first page, and `b` on every other. -/
def twoPages : Option String → ArtifactPage
  | none => { artifacts := [⟨"a", ""⟩], nextPageToken := some "t" }
  | some _ => { artifacts := [⟨"b", ""⟩], nextPageToken := none }

def twoPagesBody (further : Bool) : String :=
  if further then "\x7b\"artifacts\":[\x7b\"artifact_id\":\"b\"\x7d]\x7d"
  else "\x7b\"artifacts\":[\x7b\"artifact_id\":\"a\"\x7d],\"next_page_token\":\"t\"\x7d"

/-- A world in which the platform lists the artifacts on two pages. A query with a further
parameter asks for the second one. -/
def pagedWorld : World (List Answer)
  | .request request, answers =>
    if request.location.path = "/apis/v2beta1/artifacts".toList then
      (accepted (twoPagesBody ((request.location.query.getD []).contains '&')), answers)
    else sampleWorld samplePods (.request request) answers
  | call, answers => sampleWorld samplePods call answers

/-- The answers to the requests but for listings of artifacts. -/
def pagedAnswers : List Answer :=
  sampleAnswers.take 4 ++ sampleAnswers.drop 5

def artifactsLocation : Url.Location :=
  { sample.client.base.location with
    path := "/apis/v2beta1/artifacts".toList, query := some "namespace=ns".toList }

theorem chain_twoPages : Chain twoPages none [twoPages none, twoPages (some "t")] :=
  .more (by decide) (.last (by decide))

theorem pagedWorld_serves :
    sample.client.ServesPages sample.config.deployment twoPages pagedWorld := by
  rintro token request answers ⟨location, resolved, rfl⟩
  have named : Url.Base.ofText? "http://a/" = some sample.client.base := by decide
  have directory := Url.Base.isDirectory_of_ofText? named (by decide) (by decide)
  have written : artifactsPath.toList = '/' :: 'a' :: "pis/v2beta1/artifacts".toList := by decide
  rw [written] at resolved
  obtain ⟨path, query⟩ := Url.Base.of_resolve? directory (by decide) (by decide) resolved
  have place : location.path = "/apis/v2beta1/artifacts".toList := by
    rw [path]
    decide
  have shown : (pagedWorld (.request (sample.client.getAt location)) answers).1 =
      accepted (twoPagesBody ((location.query.getD []).contains '&')) := by
    simp only [pagedWorld, getAt, place, if_true]
  rw [shown]
  cases token with
  | none =>
    have first : (location.query.getD []).contains '&' = false := by
      rw [query]
      decide
    rw [first]
    exact ⟨⟨_, rfl, rfl, rfl⟩, ⟨_, rfl, rfl, rfl⟩⟩
  | some token =>
    have sign : Percent.encodeChar Url.keptInQuery '&' = ['&'] :=
      Percent.encodeChar_kept (by decide)
    have further : (location.query.getD []).contains '&' = true := by
      rw [query, Option.some_or, Option.map_some, Option.getD_some, artifactsQuery,
        Percent.encode_append, Percent.encode_cons, sign]
      simp
    rw [further]
    exact ⟨⟨_, rfl, rfl, rfl⟩, ⟨_, rfl, rfl, rfl⟩⟩

theorem listing_is_first_page_of_two :
    sample.client.ServesPages sample.config.deployment twoPages pagedWorld ∧
      sample.client.locate? artifactsPath (some ("namespace", sample.config.deployment)) =
        some artifactsLocation ∧
      artifactsLocation.isSendable = true ∧ sample.client.closed = false ∧
      artifactsLocation.checkOrigin = .ok () ∧
      Chain twoPages none [twoPages none, twoPages (some "t")] ∧
      ((sample.client.listArtifacts sample.config.deployment).play pagedWorld pagedAnswers).1 =
        .ok [⟨"a", ""⟩] := by
  have located : sample.client.locate? artifactsPath
      (some ("namespace", sample.config.deployment)) = some artifactsLocation := by decide
  exact ⟨pagedWorld_serves, located, by decide, rfl, rfl, chain_twoPages,
    (listing_is_first_page pagedWorld_serves located (by decide) rfl rfl chain_twoPages
      pagedAnswers).1⟩

/-- The second page is never asked for: its artifact is not listed, and the scenario ends
with a success without it. -/
theorem report_leaves_second_page_out :
    sample.client.ServesPages sample.config.deployment twoPages pagedWorld ∧
      Chain twoPages none [twoPages none, twoPages (some "t")] ∧
      ((sample.client.listArtifacts sample.config.deployment).play pagedWorld pagedAnswers).1 ≠
        .ok ([twoPages none, twoPages (some "t")].flatMap (·.artifacts)) ∧
      ∃ report, ((sample.run .idle).play pagedWorld pagedAnswers).1 = .ok report ∧
        report.succeeded = true ∧ ⟨"b", ""⟩ ∈ (twoPages (some "t")).artifacts ∧
        "b" ∉ report.outcomes.map (·.artifactId) := by
  have located : sample.client.locate? artifactsPath
      (some ("namespace", sample.config.deployment)) = some artifactsLocation := by decide
  refine ⟨pagedWorld_serves, chain_twoPages, ?_, ?_⟩
  · rw [(listArtifacts_of_serves pagedWorld_serves located (by decide) rfl rfl pagedAnswers).1]
    exact fun same => absurd (Except.ok.inj same) (by decide)
  · have ends : endsWithOne ((sample.run .idle).play pagedWorld pagedAnswers).1 = true := by
      decide +kernel
    generalize ended : ((sample.run .idle).play pagedWorld pagedAnswers).1 = result at ends
    match result with
    | .ok report =>
      obtain ⟨succeeded, one⟩ := Bool.and_eq_true_iff.mp ends
      refine ⟨report, rfl, succeeded, by decide, ?_⟩
      rw [beq_iff_eq.mp one]
      decide
    | .error _ => cases ends

end Scenario.Verifier

end ArtifactAudit
