import ArtifactAudit.Logging.Filter
import ArtifactAudit.Proofs.Platform.Parameters
import ArtifactAudit.Proofs.Platform.Requests
import ArtifactAudit.Proofs.Text.Routes
import ArtifactAudit.Proofs.Url.Places

/-!
# Polls in the log

The filter looks for the path of runs and for a method anywhere in a line. A line about a
request holds the whole URL, so the path might stand in it across the seams: between the base
and the path of the request, in an identifier, or in a parameter. It does not, if it does not
stand in the place of the base itself; then the filter drops the lines about polls and no others
(`passes_iff_of_perform`).

That is about the base as requests are sent to it. A base whose dot segments are resolved may
lie at the path of runs although its text does not mention it (`passes_drops_artifact`).
-/

set_option autoImplicit false

namespace ArtifactAudit

/-! ## Routes in URLs -/

namespace Url

open Text

/-- A phrase stands before or behind a mark that it does not hold, if anything is marked. -/
theorem infix_append_marked_iff {phrase s : List Char} {part : Option (List Char)} {mark : Char}
    (free : mark ∉ phrase) :
    phrase <:+: s ++ (part.map (mark :: ·)).getD [] ↔
      phrase <:+: s ∨ ∃ marked ∈ part, phrase <:+: marked := by
  cases part with
  | none => simp
  | some marked =>
    rw [Option.map_some, Option.getD_some, infix_append_cons_iff free]
    simp

namespace Location

/-- What stands in front of the path in the text of a location. -/
def site (location : Location) : List Char :=
  (if location.scheme.isEmpty then [] else location.scheme ++ [':']) ++
    (if location.authority.isEmpty then [] else '/' :: '/' :: location.authority)

/-- A phrase without the marks of a query and a fragment stands in one part of a location. -/
theorem infix_text_iff {location : Location} {phrase : List Char} (unasked : '?' ∉ phrase)
    (unmarked : '#' ∉ phrase) :
    phrase <:+: location.text.toList ↔
      (phrase <:+: location.site ++ location.path ∨ ∃ asked ∈ location.query, phrase <:+: asked) ∨
        ∃ marked ∈ location.fragment, phrase <:+: marked := by
  rw [← infix_append_marked_iff unasked, ← infix_append_marked_iff unmarked, text,
    String.toList_ofList, site]

end Location

namespace Reached

variable {place location : Location} {rest : List Char} {query : Option (List Char)}
  {parts : List (List Char)} {last : List Char}

/-- What is appended to a path brings no route without its last part. -/
theorem route_infix_path (reached : Reached place rest query location)
    (single : ∀ part ∈ parts ++ [last], '/' ∉ part) (absent : last ∉ (pieces '/' rest).dropLast)
    (stands : route '/' (parts ++ [last]) <:+: location.site ++ location.path) :
    route '/' (parts ++ [last]) <:+: place.site ++ place.path := by
  cases reached with
  | path ends | parameter ends =>
    rw [ends, ← List.append_assoc]
    rw [← List.append_assoc] at stands
    exact (route_infix_append_iff single absent).mp stands
  | query | replaced => exact stands

/-- What is appended to a query brings none either, and a query that is given has none. -/
theorem route_infix_query (reached : Reached place rest query location)
    (single : ∀ part ∈ parts ++ [last], '/' ∉ part) (absent : last ∉ (pieces '/' rest).dropLast)
    (flat : ∀ asked ∈ query, '/' ∉ asked)
    (stands : ∃ asked ∈ location.query, route '/' (parts ++ [last]) <:+: asked) :
    ∃ asked ∈ place.query, route '/' (parts ++ [last]) <:+: asked := by
  have slashed : '/' ∈ route '/' (parts ++ [last]) := by simp [route]
  obtain ⟨asked, given, stands⟩ := stands
  cases reached with
  | path => exact ⟨asked, given, stands⟩
  | query ends =>
    obtain rfl := Option.some.inj (Option.mem_def.mp given)
    exact ⟨_, ends, (route_infix_append_iff single absent).mp stands⟩
  | parameter | replaced => exact absurd (stands.subset slashed) (flat asked given)

theorem fragment_eq (reached : Reached place rest query location) :
    location.fragment = place.fragment := by
  cases reached <;> rfl

/-- What is appended to a place brings no route without its last part. -/
theorem route_infix_place (reached : Reached place rest query location)
    (single : ∀ part ∈ parts ++ [last], '/' ∉ part)
    (unasked : '?' ∉ route '/' (parts ++ [last])) (unmarked : '#' ∉ route '/' (parts ++ [last]))
    (absent : last ∉ (pieces '/' rest).dropLast) (flat : ∀ asked ∈ query, '/' ∉ asked)
    (stands : route '/' (parts ++ [last]) <:+: location.text.toList) :
    route '/' (parts ++ [last]) <:+: place.text.toList := by
  rw [Location.infix_text_iff unasked unmarked] at stands ⊢
  rw [reached.fragment_eq] at stands
  exact stands.imp_left (Or.imp (reached.route_infix_path single absent)
    (reached.route_infix_query single absent flat))

/-- A route that is appended as a whole stands in the location. -/
theorem contains_route (reached : Reached place rest none location) (some : parts ≠ [])
    (single : ∀ part ∈ parts, '/' ∉ part) (unasked : '?' ∉ route '/' parts)
    (unmarked : '#' ∉ route '/' parts) (within : parts <:+: (pieces '/' rest).dropLast) :
    route '/' parts <:+: location.text.toList := by
  rw [Location.infix_text_iff unasked unmarked]
  cases reached with
  | path ends =>
    refine .inl (.inl ?_)
    rw [← List.append_assoc]
    exact route_infix_append some single within
  | query ends => exact .inl (.inr ⟨_, rfl, route_infix_append some single within⟩)

end Reached

end Url

/-! ## Requests of operations -/

namespace Logging

open Platform Platform.Client Url

/-- The segments of the path of runs. -/
def runSegments : List (List Char) := ["apis", "v2beta1", "runs"].map String.toList

theorem runPath_eq : runPath.toList = Text.route '/' runSegments := by decide

theorem single_of_mem_runSegments : ∀ segment ∈ runSegments, '/' ∉ segment := by decide

/-- Whether a base is not at the path of runs: its place does not mention it, with its own query
or with an empty one in its place. -/
def IsApart (base : Base) : Prop :=
  ∀ query ∈ [none, some []], ∀ place ∈ base.resolve? ['/'] query,
    Text.mentions place.text runPath = false

instance (base : Base) : Decidable (IsApart base) :=
  inferInstanceAs (Decidable (∀ query ∈ [none, some []], ∀ place ∈ base.resolve? ['/'] query,
    Text.mentions place.text runPath = false))

/-- What a request of an operation appends to the place of its base. -/
theorem reached_of_asksIn {client : Client} {operation : Operation} {request : Request}
    (settled : client.base.IsSettled) (plain : operation.IsPlain)
    (asks : client.AsksIn operation request) :
    ∃ query place rest, client.base.resolve? ['/'] (query.map fun _ => []) = some place ∧
      Reached place rest query request.location ∧ (operation.isPoll = true → query = none) ∧
      (∀ asked ∈ query, '/' ∉ asked) ∧
      (Text.pieces '/' rest).dropLast = operation.branch.map String.toList := by
  obtain ⟨parameter, body, bare, location, located, rfl⟩ := asks
  obtain ⟨rest, opens⟩ := operation.exists_rest
  have cut : Text.pieces '/' ('a' :: rest) = operation.segments := by
    rw [← opens, Operation.pieces_segments plain]
  have free : ∀ sign, sign ≠ '/' → (∀ segment, IsPlainSegment segment → sign ∉ segment) →
      sign ∉ rest := by
    intro sign apart free among
    have within : sign ∈ Text.joinPieces '/' operation.segments := by
      rw [opens]
      exact List.mem_cons_of_mem _ among
    rcases Text.mem_joinPieces within with same | ⟨segment, listed, among⟩
    · exact apart same
    · exact free segment (Operation.plain_of_mem_segments plain listed) among
  rw [locate?, Operation.path_eq, opens] at located
  obtain ⟨place, placed, reached⟩ := Base.reached_of_resolve? settled (by decide) (by decide)
    (free '?' (by decide) fun _ plain => plain.unasked)
    (free '#' (by decide) fun _ plain => plain.unmarked)
    (fun segment among => (Operation.plain_of_mem_segments plain (cut ▸ among)).plain) located
  refine ⟨_, place, _, ?_, reached, ?_, ?_, ?_⟩
  · rw [← placed, Option.map_map]
    rfl
  · intro poll
    rw [bare poll]
    rfl
  · intro asked given among
    rw [Option.map_map] at given
    obtain ⟨⟨key, value⟩, _, rfl⟩ := Option.map_eq_some_iff.mp (Option.mem_def.mp given)
    change '/' ∈ Percent.encode keptInQuery (Form.parameter key value) at among
    rw [encode_parameter] at among
    rcases Form.mem_parameter among with impossible | impossible <;>
      exact absurd impossible (by decide)
  · have kept : ∀ name ∈ Operation.names, Percent.encode keptInPath name.toList = name.toList := by
      decide
    rw [pieces_encode slash_kept, cut, Operation.segments, List.map_append, List.map_append,
      List.map_singleton, List.map_singleton, List.dropLast_concat, List.map_map]
    exact List.map_congr_left fun name listed => kept name (operation.branch_subset listed)

/-- A request of an operation mentions the path of runs exactly if it reads a run. -/
theorem mentions_runPath {client : Client} {operation : Operation} {request : Request}
    (settled : client.base.IsSettled) (apart : IsApart client.base) (plain : operation.IsPlain)
    (asks : client.AsksIn operation request) :
    Text.mentions request.location.text runPath = operation.isPoll := by
  obtain ⟨query, place, rest, placed, reached, bare, flat, branch⟩ :=
    reached_of_asksIn settled plain asks
  have unasked : '?' ∉ Text.route '/' runSegments := by decide
  have unmarked : '#' ∉ Text.route '/' runSegments := by decide
  rw [Text.mentions, Bool.eq_iff_iff, Text.occursIn_iff, runPath_eq]
  constructor
  · intro stands
    by_contra other
    have absent : "runs".toList ∉ (Text.pieces '/' rest).dropLast := by
      rw [branch]
      intro among
      obtain ⟨name, listed, same⟩ := List.mem_map.mp among
      obtain rfl := String.toList_inj.mp same
      exact other ((Operation.runs_mem_branch_iff operation).mp listed)
    have within : Text.route '/' (["apis", "v2beta1"].map String.toList ++ ["runs".toList]) <:+:
        place.text.toList :=
      reached.route_infix_place single_of_mem_runSegments unasked unmarked absent flat stands
    have clear := apart _ (by cases query <;> simp) place placed
    rw [Text.mentions, Bool.eq_false_iff, Ne, Text.occursIn_iff, runPath_eq] at clear
    exact clear within
  · intro poll
    obtain rfl := bare poll
    refine Reached.contains_route reached (by decide) single_of_mem_runSegments unasked unmarked ?_
    rw [branch, (Operation.sent_of_isPoll poll).2]
    exact List.infix_rfl

/-! ## Lines about requests -/

/-- What a line of the HTTP library tells about a response. -/
def responsePart (version : String) (status : Nat) (reason : String) : String :=
  "\"HTTP/" ++ version ++ " " ++ toString status ++ " " ++ reason ++ "\""

/-- The line of the HTTP library about a request and the response to it. -/
def requestLine (request : Request) (version : String) (status : Nat) (reason : String) : String :=
  "HTTP Request: " ++ request.method.name ++ " " ++ request.location.text ++ " " ++
    responsePart version status reason

variable {request : Request} {version reason : String} {status : Nat}

theorem toList_requestLine (request : Request) (version : String) (status : Nat) (reason : String) :
    (requestLine request version status reason).toList =
      ("HTTP Request: ".toList ++ request.method.name.toList) ++ ' ' ::
        (request.location.text.toList ++ ' ' :: (responsePart version status reason).toList) := by
  unfold requestLine
  simp only [String.toList_append, List.append_assoc]
  rfl

/-- A response has too few slashes for the path of runs. -/
theorem not_infix_responsePart (unslashed : '/' ∉ version.toList) (plain : '/' ∉ reason.toList) :
    ¬ runPath.toList <:+: (responsePart version status reason).toList := by
  intro stands
  have digits : '/' ∉ (toString status).toList := by
    intro among
    rw [Nat.toString_eq_repr, Nat.toList_repr] at among
    exact absurd (Nat.isDigit_of_mem_toDigits (by decide) (by decide) among) (by decide)
  have few := stands.sublist.count_le '/'
  have four : runPath.toList.count '/' = 4 := by decide
  unfold responsePart at few
  simp only [String.toList_append, List.count_append, List.count_eq_zero.mpr unslashed,
    List.count_eq_zero.mpr plain, List.count_eq_zero.mpr digits, four] at few
  have one : "\"HTTP/".toList.count '/' = 1 ∧ " ".toList.count '/' = 0 ∧
      "\"".toList.count '/' = 0 := by
    decide
  omega

/-- A line mentions the path of runs exactly if the URL in it does. -/
theorem mentions_requestLine (unslashed : '/' ∉ version.toList) (plain : '/' ∉ reason.toList) :
    Text.mentions (requestLine request version status reason) runPath =
      Text.mentions request.location.text runPath := by
  have blank : ' ' ∉ runPath.toList := by decide
  have front : ¬ runPath.toList <:+: "HTTP Request: ".toList ++ request.method.name.toList := by
    rw [← Text.occursIn_iff]
    cases request.method <;> decide
  rw [Text.mentions, Text.mentions, Bool.eq_iff_iff, Text.occursIn_iff, Text.occursIn_iff,
    toList_requestLine, Text.infix_append_cons_iff blank, Text.infix_append_cons_iff blank]
  rw [or_iff_right front, or_iff_left (not_infix_responsePart unslashed plain)]

/-- A line mentions the method of its request. -/
theorem mentions_method (reads : request.method = .get) :
    Text.mentions (requestLine request version status reason) readMethod = true := by
  rw [Text.mentions, Text.occursIn_iff, toList_requestLine, reads, List.append_assoc,
    ← List.append_assoc]
  exact List.infix_append _ _ _

/-- For every base that does not lie at the path of runs itself, and every operation whose
identifiers are single segments: the filter drops the lines about requests that read a run and
lets all other lines about requests pass. Records of other loggers always pass. -/
theorem passes_iff_of_perform {config : PlatformConfig} {patience : Nat} {client : Client}
    (made : ofConfig config patience = .ok client) (apart : IsApart client.base) :
    (∀ operation : Operation, operation.IsPlain →
      ∀ events result, (client.perform operation).Runs events result →
        ∀ request ∈ requestsOf events, ∀ (record : Record) version status reason,
          record.logger = httpLogger → '/' ∉ version.toList → '/' ∉ reason.toList →
            record.text = .ok (requestLine request version status reason) →
              passes record = .ok (!operation.isPoll)) ∧
      ∀ record : Record, record.logger ≠ httpLogger → passes record = .ok true := by
  have settled := Base.isSettled_of_ofText? (of_ofConfig made).1
  constructor
  · intro operation plain events result run request sent record version status reason logged
      unslashed wordy shown
    obtain ⟨answer, seen⟩ := mem_requestsOf_iff.mp sent
    have asks := client.perform_asks operation events result run request answer seen
    have mentioned := mentions_runPath settled apart plain asks
    rw [passes, logged, beq_self_eq_true, if_pos rfl, shown]
    change Except.ok (!isPoll _) = _
    rw [isPoll, mentions_requestLine unslashed wordy, mentioned]
    cases poll : operation.isPoll with
    | false => rfl
    | true =>
      have reads : request.method = .get := by
        obtain ⟨_, _, _, _, _, rfl⟩ := asks
        exact (Operation.sent_of_isPoll poll).1
      rw [mentions_method reads]
      rfl
  · intro record other
    rw [passes, beq_eq_false_iff_ne.mpr other]
    rfl

/-- A poll, and a request for an artifact that has the name of the collection of runs. -/
theorem passes_iff_of_perform_for_runs :
    ofConfig { apiUrl := "http://api:8888/ds" } = .ok nestedClient ∧ IsApart nestedClient.base ∧
      (nestedClient.perform (.getRun "r")).Sends
        (fun request => passes ⟨httpLogger, requestLine request "1.1" 200 "OK", []⟩ = .ok false) ∧
      (nestedClient.perform (.getArtifact "runs")).Sends
        fun request => passes ⟨httpLogger, requestLine request "1.1" 200 "OK", []⟩ = .ok true := by
  have apart : IsApart nestedClient.base := by decide
  have line : ∀ operation : Operation, operation.IsPlain →
      (nestedClient.perform operation).Sends (fun _ => True) →
        (nestedClient.perform operation).Sends fun request =>
          passes ⟨httpLogger, requestLine request "1.1" 200 "OK", []⟩ =
            .ok (!operation.isPoll) := by
    intro operation plain sends events result run
    obtain ⟨request, answer, seen, _⟩ := sends events result run
    have sent : request ∈ requestsOf events :=
      mem_requestsOf_iff.mpr ⟨answer, by rw [seen]; exact List.mem_singleton_self _⟩
    exact ⟨request, answer, seen, (passes_iff_of_perform nestedClient_made apart).1 operation plain
      events result run request sent _ "1.1" 200 "OK" rfl (by decide) (by decide) rfl⟩
  have sends : ∀ (inquiry : Inquiry) (id : String),
      nestedClient.Reaches (inquiry.path id) inquiry.parameter →
        (nestedClient.inquire inquiry id).Sends fun _ => True := fun inquiry id reaches => by
    obtain ⟨location, located, sendable⟩ := reaches
    exact (inquire_sends_iff_located rfl inquiry id).mpr ⟨location, located, sendable, trivial⟩
  exact ⟨nestedClient_made, apart, line (.getRun "r") (by decide) (sends .run "r" (by decide)),
    line (.getArtifact "runs") (by decide) (sends .artifact "runs" (by decide))⟩

/-- A client whose base has a dot segment. -/
def dottedClient : Client :=
  { nestedClient with
    base := ⟨{ scheme := "http".toList, user := [], host := "h".toList, port := none
               path := "/apis/v2beta1/runs/".toList, query := none, fragment := none }⟩ }

/-- Dot segments are resolved, so a base may come to lie at the path of runs. Then the line about
a request for an artifact is dropped. -/
theorem passes_drops_artifact :
    ofConfig { apiUrl := "http://h/apis/./v2beta1/runs" } = .ok dottedClient ∧
      Text.mentions ("http://h/apis/./v2beta1/runs" ++ "/") runPath = false ∧
        (dottedClient.getArtifact "a").Sends fun request =>
          passes ⟨httpLogger, requestLine request "1.1" 200 "OK", []⟩ = .ok false := by
  refine ⟨rfl, by decide +kernel, (inquire_sends_iff_located rfl .artifact "a").mpr ?_⟩
  refine ⟨{ dottedClient.base.location with
    path := "/apis/v2beta1/runs/apis/v2beta1/artifacts/a".toList }, by decide, by decide, ?_⟩
  have dropped : isPoll (requestLine
      (dottedClient.getAt { dottedClient.base.location with
        path := "/apis/v2beta1/runs/apis/v2beta1/artifacts/a".toList }) "1.1" 200 "OK") = true := by
    decide +kernel
  rw [passes, beq_self_eq_true, if_pos rfl]
  change Except.ok (!isPoll _) = _
  rw [dropped]
  rfl

end Logging

end ArtifactAudit
