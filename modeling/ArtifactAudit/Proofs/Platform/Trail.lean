import Mathlib.Data.Finset.Card
import ArtifactAudit.Proofs.Platform.Parameters
import ArtifactAudit.Proofs.Script.Steady

/-!
# The trail of a listing

Against a platform whose answers depend on the token alone, a listing follows a trail of
tokens, each named by the page with the one before it (`Trail`). It keeps no record of the
tokens that it has followed. If the platform hands out finitely many of them, the listing
ends by itself exactly if none comes back on its trail, and then it asks for each page once
at most (`listPipelines_stops_iff`). If one comes back, nothing but its patience ends the
listing, and a lookup is stuck in its first one (`listPipelines_endless_on_stuck_platform`).
-/

set_option autoImplicit false

namespace ArtifactAudit.Platform.Client

/-! ## Platforms that depend on the token -/

section

variable {σ : Type} {client : Client} {world : World σ} {platform : Option String → Answer}
  {token : Option String} {next : String} {tokens : List String}

/-- Whether a world answers every request for a page as the platform answers its token. -/
def Serves (client : Client) (world : World σ) (platform : Option String → Answer) : Prop :=
  ∀ token request, client.AsksFor token request →
    ∀ state, (world (.request request) state).1 = platform token

/-- Whether the page with a token is shown and names a next one. -/
def Leads (client : Client) (platform : Option String → Answer) (token : Option String)
    (next : String) : Prop :=
  ∃ location page, client.Admits token location ∧ location.checkOrigin = .ok () ∧
    Reports PipelineListing.read (platform token) page ∧
      PipelineListing.continuation? page = some next

/-- The tokens that may be followed from the page with a token on. -/
inductive Trail (client : Client) (platform : Option String → Answer) :
    Option String → List String → Prop where
  | nil (token : Option String) : Trail client platform token []
  | cons {token : Option String} {next : String} {rest : List String} :
      client.Leads platform token next → Trail client platform (some next) rest →
        Trail client platform token (next :: rest)

/-- The token that an answer hands out, if it shows a page that names a next one. -/
def tokenOn? : Event → Option String
  | ⟨.request _, answer⟩ => (pageIn? answer).bind PipelineListing.continuation?
  | _ => none

/-- The tokens that were handed out, in order. -/
def tokensIn (events : List Event) : List String :=
  events.filterMap tokenOn?

/-! ## Trails -/

namespace Trail

/-- Every token of a trail is named by some page. -/
theorem named (trail : client.Trail platform token tokens) :
    ∀ next ∈ tokens, ∃ before, client.Leads platform before next := by
  induction trail with
  | nil => simp
  | cons leads _ ih => exact List.forall_mem_cons.mpr ⟨⟨_, leads⟩, ih⟩

/-- A trail may be cut at any of its tokens, and joined there. -/
theorem append_iff {front rest : List String} :
    client.Trail platform token (front ++ next :: rest) ↔
      client.Trail platform token (front ++ [next]) ∧
        client.Trail platform (some next) rest := by
  induction front generalizing token with
  | nil =>
    constructor
    · rintro (_ | ⟨leads, rest⟩)
      exact ⟨.cons leads (.nil _), rest⟩
    · rintro ⟨_ | ⟨leads, _⟩, rest⟩
      exact .cons leads rest
  | cons first front ih =>
    constructor
    · rintro (_ | ⟨leads, rest⟩)
      obtain ⟨closed, rest⟩ := ih.mp rest
      exact ⟨.cons leads closed, rest⟩
    · rintro ⟨_ | ⟨leads, closed⟩, rest⟩
      exact .cons leads (ih.mpr ⟨closed, rest⟩)

/-- A trail that comes back to its beginning may be followed as long as one likes. -/
theorem exists_long_of_loop {loop : List String}
    (back : client.Trail platform (some next) (loop ++ [next])) (length : Nat) :
    ∃ long, client.Trail platform (some next) long ∧ length ≤ long.length := by
  induction length with
  | zero => exact ⟨[], .nil _, Nat.zero_le _⟩
  | succ length ih =>
    obtain ⟨long, trail, bound⟩ := ih
    refine ⟨loop ++ next :: long, append_iff.mpr ⟨back, trail⟩, ?_⟩
    rw [List.length_append, List.length_cons]
    omega

/-- If a token comes back, there are trails of any length. -/
theorem exists_long (trail : client.Trail platform token tokens) (returns : ¬ tokens.Nodup)
    (length : Nat) : ∃ long, client.Trail platform token long ∧ length ≤ long.length := by
  induction trail with
  | nil => exact absurd List.nodup_nil returns
  | @cons token next rest leads trail ih =>
    suffices longer : ∃ long, client.Trail platform (some next) long ∧ length ≤ long.length by
      obtain ⟨long, further, bound⟩ := longer
      exact ⟨next :: long, .cons leads further, Nat.le_succ_of_le bound⟩
    by_cases again : next ∈ rest
    · obtain ⟨loop, _, rfl⟩ := List.append_of_mem again
      exact exists_long_of_loop (append_iff.mp trail).1 length
    · exact ih fun unique => returns (List.nodup_cons.mpr ⟨again, unique⟩)

end Trail

/-! ## Page by page -/

/-- At a page that names a next one the listing goes on with its token. -/
theorem listFrom_leads (serves : client.Serves world platform)
    (leads : client.Leads platform token next) (listed : List Pipeline) (start : σ) :
    ∃ request more later, client.AsksFor token request ∧
      tokenOn? ⟨.request request, platform token⟩ = some next ∧
      ∀ patience,
        (client.listFrom (patience + 1) token listed).play world start =
          (client.listFrom patience (some next) more).play world later ∧
        (client.listFrom (patience + 1) token listed).events world start =
          ⟨.request request, platform token⟩ ::
            (client.listFrom patience (some next) more).events world later := by
  obtain ⟨location, page, admits, origin, reports, continues⟩ := leads
  have answer := serves token _ admits.asks start
  have shown : answered "PipelineListing" PipelineListing.read pipelinesPath location
      (platform token) = .ok page := answered_of_reports origin reports
  refine ⟨client.getAt location, listed ++ page.pipelines,
    (world (.request (client.getAt location)) start).2, admits.asks, ?_, fun patience => ?_⟩
  · rw [tokenOn?, pageIn?_eq_some_iff.mpr reports]
    exact continues
  · simp only [listFrom, admits.listPage_eq, Bind.bind, Script.bind, Script.play, Script.events,
      answer, shown, Script.ofSettled, continues, and_self]

/-- At any other page it ends, whatever patience is left. -/
theorem listFrom_stays (serves : client.Serves world platform)
    (last : ∀ next, ¬ client.Leads platform token next) (listed : List Pipeline) (start : σ) :
    ∃ events result, (requestsOf events = [] ∨
        ∃ request, requestsOf events = [request] ∧ client.AsksFor token request) ∧
      ∀ patience, (client.listFrom (patience + 1) token listed).events world start = events ∧
        ((client.listFrom (patience + 1) token listed).play world start).1 = result := by
  rcases client.admits_or_bars token with ⟨location, admits⟩ | ⟨fault, bars⟩
  · have answer := serves token _ admits.asks start
    cases shown : answered "PipelineListing" PipelineListing.read pipelinesPath location
        (platform token) with
    | error reason =>
      refine ⟨[⟨.request (client.getAt location), platform token⟩], .error reason,
        .inr ⟨_, rfl, admits.asks⟩, fun patience => ?_⟩
      simp only [listFrom, admits.listPage_eq, Bind.bind, Script.bind, Script.play, Script.events,
        answer, shown, Script.ofSettled, and_self]
    | ok page =>
      obtain ⟨origin, reports⟩ := answered_eq_ok_iff.mp shown
      cases continues : PipelineListing.continuation? page with
      | some next => exact absurd ⟨location, page, admits, origin, reports, continues⟩ (last next)
      | none =>
        refine ⟨[⟨.request (client.getAt location), platform token⟩],
          .ok (listed ++ page.pipelines), .inr ⟨_, rfl, admits.asks⟩, fun patience => ?_⟩
        simp only [listFrom, admits.listPage_eq, Bind.bind, Script.bind, Script.play,
          Script.events, answer, shown, Script.ofSettled, continues]
        exact ⟨rfl, rfl⟩
  · refine ⟨[], .error (.fault fault), .inl rfl, fun patience => ?_⟩
    simp only [listFrom, listPage_of_bars bars, Bind.bind, Script.crash, Script.bind,
      Script.play, Script.events, and_self]

/-- A listing follows a trail. It asks for the page in front and for those that the tokens of
the trail lead to, but perhaps for the last one. -/
theorem listFrom_walks (serves : client.Serves world platform) (patience : Nat)
    (token : Option String) (listed : List Pipeline) (start : σ) :
    ∃ visited tokens, client.Trail platform token tokens ∧ visited <+: token :: tokens.map some ∧
      List.Forall₂ client.AsksFor visited
        (requestsOf ((client.listFrom patience token listed).events world start)) ∧
      tokens ⊆ tokensIn ((client.listFrom patience token listed).events world start) := by
  induction patience generalizing token listed start with
  | zero => exact ⟨[], [], .nil token, List.nil_prefix, .nil, List.nil_subset _⟩
  | succ patience ih =>
    by_cases leads : ∃ next, client.Leads platform token next
    · obtain ⟨next, leads⟩ := leads
      obtain ⟨request, more, later, asks, given, goes⟩ := listFrom_leads serves leads listed start
      obtain ⟨visited, tokens, trail, first, requests, among⟩ := ih (some next) more later
      refine ⟨token :: visited, next :: tokens, .cons leads trail,
        List.cons_prefix_cons.mpr ⟨rfl, first⟩, ?_, ?_⟩
      · rw [(goes patience).2]
        exact .cons asks requests
      · rw [(goes patience).2, tokensIn, List.filterMap_cons_some given]
        exact List.cons_subset_cons next among
    · obtain ⟨events, result, asked, ended⟩ :=
        listFrom_stays serves (not_exists.mp leads) listed start
      rw [(ended patience).1]
      rcases asked with none | ⟨request, one, asks⟩
      · refine ⟨[], [], .nil token, List.nil_prefix, ?_, List.nil_subset _⟩
        rw [none]
        exact .nil
      · refine ⟨[token], [], .nil token, List.prefix_refl _, ?_, List.nil_subset _⟩
        rw [one]
        exact .cons asks .nil

/-- As long as a trail goes on, so does the listing, until its patience ends. -/
theorem listFrom_follows_trail (serves : client.Serves world platform)
    (trail : client.Trail platform token tokens) {patience : Nat}
    (patient : patience ≤ tokens.length) (listed : List Pipeline) (start : σ) :
    ((client.listFrom patience token listed).play world start).1 =
        .error (.fault .outOfPatience) ∧
      List.Forall₂ client.AsksFor ((token :: tokens.map some).take patience)
        (requestsOf ((client.listFrom patience token listed).events world start)) := by
  induction patience generalizing token tokens listed start with
  | zero => exact ⟨rfl, .nil⟩
  | succ patience ih =>
    cases trail with
    | nil => exact absurd patient (Nat.not_succ_le_zero patience)
    | cons leads rest =>
      obtain ⟨request, more, later, asks, _, goes⟩ := listFrom_leads serves leads listed start
      obtain ⟨ended, requests⟩ := ih rest (Nat.le_of_succ_le_succ patient) more later
      rw [(goes patience).1, (goes patience).2]
      exact ⟨ended, .cons asks requests⟩

/-- If every trail is shorter than the patience, more patience changes nothing. -/
theorem listFrom_stable (serves : client.Serves world platform) {patience : Nat}
    (short : ∀ tokens, client.Trail platform token tokens → tokens.length < patience)
    (more : Nat) (listed : List Pipeline) (start : σ) :
    (client.listFrom (patience + more) token listed).events world start =
        (client.listFrom patience token listed).events world start ∧
      ((client.listFrom (patience + more) token listed).play world start).1 =
        ((client.listFrom patience token listed).play world start).1 := by
  induction patience generalizing token listed start with
  | zero => exact absurd (short [] (.nil token)) (Nat.not_lt_zero _)
  | succ patience ih =>
    rw [Nat.succ_add]
    by_cases leads : ∃ next, client.Leads platform token next
    · obtain ⟨next, leads⟩ := leads
      obtain ⟨request, further, later, _, _, goes⟩ := listFrom_leads serves leads listed start
      have shorter : ∀ tokens, client.Trail platform (some next) tokens →
          tokens.length < patience := fun tokens trail =>
        Nat.lt_of_succ_lt_succ (short (next :: tokens) (.cons leads trail))
      obtain ⟨events, result⟩ := ih shorter further later
      rw [(goes (patience + more)).1, (goes (patience + more)).2, (goes patience).1,
        (goes patience).2]
      exact ⟨by rw [events], result⟩
    · obtain ⟨events, result, _, ended⟩ :=
        listFrom_stays serves (not_exists.mp leads) listed start
      rw [(ended (patience + more)).1, (ended (patience + more)).2, (ended patience).1,
        (ended patience).2]
      exact ⟨rfl, rfl⟩

/-! ## Whole listings -/

/-- The listing of all pipelines with a patience in place of the client's own, with which it is
`listPipelines`. -/
def listWithin (client : Client) (patience : Nat) : Script (List Pipeline) :=
  client.listFrom patience none []

/-- Whether a listing ends by itself: once it has enough patience, more changes nothing. -/
def Stops (client : Client) (world : World σ) (start : σ) : Prop :=
  ∃ enough, ∀ more,
    (client.listWithin (enough + more)).events world start =
        (client.listWithin enough).events world start ∧
      ((client.listWithin (enough + more)).play world start).1 =
        ((client.listWithin enough).play world start).1

/-- A listing on whose trail a token comes back asks for as many pages as its patience
allows. -/
theorem endless_of_returns (serves : client.Serves world platform)
    (trail : client.Trail platform none tokens) (returns : ¬ tokens.Nodup) (patience : Nat)
    (start : σ) :
    ((client.listWithin patience).play world start).1 = .error (.fault .outOfPatience) ∧
      (requestsOf ((client.listWithin patience).events world start)).length = patience := by
  obtain ⟨long, further, bound⟩ := trail.exists_long returns patience
  obtain ⟨ended, requests⟩ := listFrom_follows_trail serves further bound [] start
  refine ⟨ended, requests.length_eq.symm.trans ?_⟩
  rw [List.length_take, List.length_cons, List.length_map]
  omega

/-- For every platform that answers for a page by its token alone and hands out finitely many
tokens: the listing ends by itself exactly if no token comes back on the trail of its pages.
If none does, it asks for no page twice, and for at most one more than it was given tokens. If
one does, it asks for as many pages as its patience allows. -/
theorem listPipelines_stops_iff (serves : client.Serves world platform)
    (finite : ∃ given : Finset String,
      ∀ token next, client.Leads platform token next → next ∈ given) (start : σ) :
    (client.Stops world start ↔
      ∀ tokens, client.Trail platform none tokens → tokens.Nodup) ∧
    ((∀ tokens, client.Trail platform none tokens → tokens.Nodup) → ∀ patience,
      ∃ visited, visited.Nodup ∧
        List.Forall₂ client.AsksFor visited
          (requestsOf ((client.listWithin patience).events world start)) ∧
        visited.length ≤
          (tokensIn ((client.listWithin patience).events world start)).toFinset.card + 1) ∧
    ∀ tokens, client.Trail platform none tokens → ¬ tokens.Nodup → ∀ patience,
      ((client.listWithin patience).play world start).1 = .error (.fault .outOfPatience) ∧
        (requestsOf ((client.listWithin patience).events world start)).length = patience := by
  refine ⟨⟨fun ⟨enough, settled⟩ tokens trail => ?_, fun unique => ?_⟩, fun unique patience => ?_,
    fun tokens trail returns patience => endless_of_returns serves trail returns patience start⟩
  · by_contra returns
    have fewer := (endless_of_returns serves trail returns enough start).2
    have more := (endless_of_returns serves trail returns (enough + 1) start).2
    rw [(settled 1).1, fewer] at more
    omega
  · obtain ⟨given, named⟩ := finite
    have short : ∀ tokens, client.Trail platform none tokens →
        tokens.length < given.card + 1 := by
      intro tokens trail
      have among : tokens.toFinset ⊆ given := fun next member => by
        obtain ⟨before, leads⟩ := trail.named next (List.mem_toFinset.mp member)
        exact named before next leads
      have bound := Finset.card_le_card among
      rw [List.toFinset_card_of_nodup (unique tokens trail)] at bound
      exact Nat.lt_succ_of_le bound
    exact ⟨given.card + 1, fun more => listFrom_stable serves short more [] start⟩
  · obtain ⟨visited, tokens, trail, first, requests, among⟩ :=
      listFrom_walks serves patience none [] start
    have distinct := unique tokens trail
    have pages : (none :: tokens.map some).Nodup :=
      List.nodup_cons.mpr ⟨by simp, distinct.map (Option.some_injective String)⟩
    refine ⟨visited, pages.sublist first.sublist, requests, ?_⟩
    have followed := first.length_le
    have given : tokens.toFinset ⊆
        (tokensIn ((client.listWithin patience).events world start)).toFinset :=
      fun next member => List.mem_toFinset.mpr (among (List.mem_toFinset.mp member))
    have bound := Finset.card_le_card given
    rw [List.toFinset_card_of_nodup distinct] at bound
    rw [List.length_cons, List.length_map] at followed
    omega

end

/-- A lookup goes no further than its first listing if that gives no pipelines. -/
theorem findPipelineId_breaks {σ : Type} {client : Client} {world : World σ} {start : σ}
    {reason : Halt} (name : String)
    (broke : (client.listPipelines.play world start).1 = .error reason) :
    ((client.findPipelineId name).play world start).1 = .error reason := by
  obtain ⟨left, more⟩ : ∃ left, client.attempts = left + 1 := by
    have once : 0 < client.attempts := by
      unfold attempts
      omega
    exact ⟨client.attempts - 1, by omega⟩
  rw [findPipelineId, more]
  change ((Script.bind client.listPipelines _).play world start).1 = _
  rw [Script.play_bind, Script.eq_mk_of_fst broke]

/-! ## Worlds with a platform in them -/

/-- The token that a request asks with. -/
def tokenAskedWith? (request : Request) : Option String :=
  (request.location.query.bind fun query =>
    ((Form.pairs query).lookup "page_token".toList).join).map String.ofList

/-- A world with a platform that reads the tokens from the queries. -/
def platformWorld (platform : Option String → Answer) : World Unit :=
  replying (fun request => platform (tokenAskedWith? request)) fun _ => .timedOut

/-- Tokens come to the platform as they are, so every platform is served. -/
theorem serves_platformWorld {client : Client}
    (bare : ∀ request, client.AsksFor none request → request.location.query = none)
    (platform : Option String → Answer) : client.Serves (platformWorld platform) platform := by
  intro token request asks state
  have read : tokenAskedWith? request = token := by
    cases token with
    | none => rw [tokenAskedWith?, bare request asks, Option.bind_none, Option.map_none]
    | some token =>
      have carries : client.Carries .page token request := Asks.carries asks
      obtain ⟨place, query, _, located, pairs⟩ := carries.location
      have asked : request.location.query = some query := by rw [located]
      rw [tokenAskedWith?, asked, Option.bind_some, pairs]
      simp [Question.key, String.ofList_toList]
  rw [← read]
  rfl

/-- What a page names is the token on it. -/
theorem Leads.token_eq {client : Client} {platform : Option String → Answer}
    {token : Option String} {next : String} (leads : client.Leads platform token next) :
    (pageIn? (platform token)).bind PipelineListing.continuation? = some next := by
  obtain ⟨_, page, _, _, reports, continues⟩ := leads
  rw [pageIn?_eq_some_iff.mpr reports]
  exact continues

/-- A platform with two pages. -/
def pairOfPages : Option String → Answer
  | none => told "\x7b\"next_page_token\":\"t\"\x7d"
  | some _ => told "\x7b\x7d"

theorem serves_nestedClient (patience : Nat) (platform : Option String → Answer) :
    { nestedClient with patience }.Serves (platformWorld platform) platform := by
  refine serves_platformWorld ?_ platform
  rintro _ ⟨location, located, rfl⟩
  have bare : (nestedClient.locate? pipelinesPath none).map (·.query) = some none := by decide
  have here : nestedClient.locate? pipelinesPath none = some location := located
  rw [here] at bare
  exact Option.some.inj bare

/-- The listing of a platform with two pages ends by itself. -/
theorem listPipelines_stops_of_two_pages :
    nestedClient.Serves (platformWorld pairOfPages) pairOfPages ∧
      (∃ given : Finset String,
        ∀ token next, nestedClient.Leads pairOfPages token next → next ∈ given) ∧
      nestedClient.Stops (platformWorld pairOfPages) () := by
  have last : ∀ token next, ¬ nestedClient.Leads pairOfPages (some token) next := by
    intro token next leads
    cases leads.token_eq
  have named : ∀ token next, nestedClient.Leads pairOfPages token next →
      next ∈ ({"t"} : Finset String) := by
    intro token next leads
    cases token with
    | none =>
      obtain rfl : "t" = next := Option.some.inj leads.token_eq
      exact Finset.mem_singleton_self "t"
    | some token => exact absurd leads (last token next)
  refine ⟨serves_nestedClient _ pairOfPages, ⟨_, named⟩,
    (listPipelines_stops_iff (serves_nestedClient _ pairOfPages) ⟨_, named⟩ ()).1.mpr ?_⟩
  rintro _ (_ | ⟨_, _ | ⟨leads, _⟩⟩)
  · exact List.nodup_nil
  · exact List.nodup_singleton _
  · exact absurd leads (last _ _)

/-- A platform on which every page names the same next one. -/
def stuckPlatform : Option String → Answer :=
  fun _ => told "\x7b\"next_page_token\":\"t\"\x7d"

/-- Where every page names the same one, that page is asked for as often as patience allows. A
lookup does not even come to the end of its first attempt. -/
theorem listPipelines_endless_on_stuck_platform :
    (∀ token next, nestedClient.Leads stuckPlatform token next → next = "t") ∧
      nestedClient.Serves (platformWorld stuckPlatform) stuckPlatform ∧
      ∀ patience,
        (requestsOf ({ nestedClient with patience }.listPipelines.events
          (platformWorld stuckPlatform) ())).length = patience ∧
        ∀ name, (({ nestedClient with patience }.findPipelineId name).play
          (platformWorld stuckPlatform) ()).1 = .error (.fault .outOfPatience) := by
  refine ⟨fun token next leads => ?_, serves_nestedClient _ stuckPlatform, fun patience => ?_⟩
  · exact (Option.some.inj leads.token_eq).symm
  · have first : ∃ location, nestedClient.Admits none location ∧ location.checkOrigin = .ok () :=
      ⟨_, ⟨rfl, by decide, rfl⟩, rfl⟩
    have again : ∃ location, nestedClient.Admits (some "t") location ∧
        location.checkOrigin = .ok () :=
      ⟨_, ⟨rfl, by decide, rfl⟩, rfl⟩
    have leads : ∀ token, (∃ location, nestedClient.Admits token location ∧
        location.checkOrigin = .ok ()) →
          { nestedClient with patience }.Leads stuckPlatform token "t" := by
      rintro token ⟨location, admits, origin⟩
      exact ⟨location, ⟨[], some "t"⟩, ⟨admits.located, admits.sendable, admits.opened⟩, origin,
        ⟨_, rfl, rfl, rfl⟩, rfl⟩
    have trail : { nestedClient with patience }.Trail stuckPlatform none ["t", "t"] :=
      .cons (leads none first) (.cons (leads (some "t") again) (.nil _))
    obtain ⟨ended, asked⟩ :=
      endless_of_returns (serves_nestedClient patience stuckPlatform) trail (by decide) patience ()
    exact ⟨asked, fun name => findPipelineId_breaks name ended⟩

end ArtifactAudit.Platform.Client
