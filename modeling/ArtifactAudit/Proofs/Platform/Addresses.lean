import ArtifactAudit.Proofs.Encoding.Reading
import ArtifactAudit.Proofs.Platform.Answers
import ArtifactAudit.Proofs.Script.Observation
import ArtifactAudit.Proofs.Url.Base

/-!
# Resources by identifier

A run and an artifact are requested by identifiers that the platform chose. The
identifier becomes part of the path as it is, so it reaches its own resource exactly if
it is a single segment that stands for itself and may stand in a URL
(`inquire_sends_iff`). Requests that reach their own resources never meet, whatever the
identifiers are.
-/

set_option autoImplicit false

namespace ArtifactAudit.Platform

open Url

/-! ## Inquiries -/

/-- The requests for a resource by its identifier. -/
inductive Inquiry where
  | run
  | artifact
  /-- An artifact with its download address resolved. -/
  | download
  deriving DecidableEq, Repr

namespace Inquiry

/-- The collection that holds the resource. -/
def collection : Inquiry → String
  | run => "/runs/"
  | artifact | download => "/artifacts/"

def path (inquiry : Inquiry) (id : String) : String :=
  apiRoot ++ inquiry.collection ++ id

def parameter : Inquiry → Option (String × String)
  | run | artifact => none
  | download => some ("view", "DOWNLOAD")

/-- The query that belongs to the inquiry. -/
def query : Inquiry → Option (List Char)
  | run | artifact => none
  | download => some "view=DOWNLOAD".toList

/-- The record of the resource. -/
abbrev Record : Inquiry → Type
  | run => Run
  | artifact | download => Artifact

end Inquiry

/-- Whether a request is the one for the resource with an identifier: its path is that
of the collection under the base, followed by one segment that denotes the identifier. -/
structure Addresses (base : Base) (inquiry : Inquiry) (id : String) (request : Request) :
    Prop where
  method : request.method = .get
  path : ∃ segment,
    request.location.path = base.stem ++ (apiRoot ++ inquiry.collection).toList ++ segment ∧
      '/' ∉ segment ∧ Percent.decode segment = id.toList
  query : request.location.query = inquiry.query

/-- Whether an identifier is a segment of a path that stands for itself. -/
structure IsSegment (id : List Char) : Prop where
  single : '/' ∉ id
  unasked : '?' ∉ id
  unmarked : '#' ∉ id
  plain : isDotSegment id = false
  unescaped : Percent.escapes id = 0

instance (id : List Char) : Decidable (IsSegment id) :=
  decidable_of_iff
    ('/' ∉ id ∧ '?' ∉ id ∧ '#' ∉ id ∧ isDotSegment id = false ∧ Percent.escapes id = 0)
    ⟨fun ⟨single, unasked, unmarked, plain, unescaped⟩ =>
        ⟨single, unasked, unmarked, plain, unescaped⟩,
      fun ⟨single, unasked, unmarked, plain, unescaped⟩ =>
        ⟨single, unasked, unmarked, plain, unescaped⟩⟩

/-- Whether an identifier may stand in the URL of its resource: it holds no control
characters, and the path is not too long. -/
structure Fits (base : Base) (inquiry : Inquiry) (id : String) : Prop where
  uncontrolled : ∀ c ∈ id.toList, 0x20 ≤ c.toNat ∧ c.toNat ≠ 0x7F
  bounded : (base.under (inquiry.path id).toList).length ≤ lengthLimit

namespace Client

variable {α : Type}

/-- Requests a resource by its identifier. -/
def inquire (client : Client) : (inquiry : Inquiry) → String → Script inquiry.Record
  | .run, id => client.getRun id
  | .artifact, id => client.getArtifact id
  | .download, id => client.getDownload id

/-- Whether the location of a request can be built and written down. -/
def Reaches (client : Client) (path : String) (parameter : Option (String × String)) : Prop :=
  ∃ location, client.locate? path parameter = some location ∧ location.isSendable = true

instance (client : Client) (path : String) (parameter : Option (String × String)) :
    Decidable (client.Reaches path parameter) :=
  decidable_of_iff ((client.locate? path parameter).any Location.isSendable = true)
    (by unfold Reaches; cases client.locate? path parameter <;> simp)

/-! ### What is sent -/

theorem send_of_blocks {client : Client} {method : Method} {path : String}
    {parameter : Option (String × String)} {body : Body} {fault : Fault}
    (blocks : client.Blocks path parameter fault) :
    client.send method path parameter body = .crash fault := by
  unfold send
  cases blocks with
  | unlocated unlocated => rw [unlocated]
  | unsendable located unsendable => simp [located, unsendable]
  | closed located sendable closed => simp [located, sendable, closed]

/-- If nothing keeps a request from being sent, it is sent. -/
theorem Exchange.sent {client : Client} {method : Method} {path : String}
    {parameter : Option (String × String)} {body : Body}
    {take : Location → Response → Except Halt α} {acts : List Act} {result : Except Halt α}
    {location : Location} (exchange : client.Exchange method path parameter body take acts result)
    (located : client.locate? path parameter = some location)
    (sendable : location.isSendable = true) (opened : client.closed = false) :
    ∃ answer, acts =
      [.request { method, location, authorization := client.authorization, body } answer] := by
  have asked : ∀ {request : Request} (answer : Answer),
      client.Asks method path parameter body request → ∃ same, [Act.request request answer] =
        [.request { method, location, authorization := client.authorization, body } same] := by
    rintro request answer ⟨other, same, rfl⟩
    rw [located] at same
    cases same
    exact ⟨answer, rfl⟩
  cases exchange with
  | blocked blocks =>
    cases blocks with
    | unlocated unlocated =>
      rw [located] at unlocated
      cases unlocated
    | unsendable again unsendable =>
      rw [located] at again
      cases again
      rw [sendable] at unsendable
      cases unsendable
    | closed _ _ closed =>
      rw [opened] at closed
      cases closed
  | upset asks | denied asks | taken asks => exact asked _ asks

section

variable {client : Client} {method : Method} {path : String} {parameter : Option (String × String)}
  {body : Body} {next : Reply → Script α} {kind : Request → Prop}

/-- What blocks a request leaves none to be sent. -/
theorem not_sends_of_blocks {fault : Fault} (blocks : client.Blocks path parameter fault) :
    ¬ ((client.send method path parameter body).bind next).Sends kind := by
  intro sends
  rw [send_of_blocks blocks] at sends
  obtain ⟨_, _, impossible, _⟩ := sends [] _ (.halt _)
  cases impossible

/-- What goes on without requests sends the request in front. -/
theorem send_bind_sends {location : Location}
    (located : client.locate? path parameter = some location)
    (sendable : location.isSendable = true) (opened : client.closed = false)
    (silent : ∀ reply, (next reply).Follows fun acts _ => acts = []) :
    ((client.send method path parameter body).bind next).Sends
      (· = { method, location, authorization := client.authorization, body }) := by
  refine (Script.Follows.bind (client.send_follows method path parameter body) silent).mono
    fun acts result follows => ?_
  cases follows with
  | stops stopped =>
    obtain ⟨answer, shown⟩ := stopped.sent located sendable opened
    exact ⟨_, answer, shown, rfl⟩
  | goes gave rest =>
    obtain ⟨answer, shown⟩ := gave.sent located sendable opened
    exact ⟨_, answer, by rw [rest, List.append_nil, shown], rfl⟩

/-- A request is sent exactly if its location can be built and written down. -/
theorem send_bind_sends_iff (opened : client.closed = false)
    (silent : ∀ reply, (next reply).Follows fun acts _ => acts = []) :
    ((client.send method path parameter body).bind next).Sends kind ↔
      ∃ location, client.locate? path parameter = some location ∧ location.isSendable = true ∧
        kind { method, location, authorization := client.authorization, body } := by
  cases located : client.locate? path parameter with
  | none =>
    exact ⟨fun sends => absurd sends (not_sends_of_blocks (.unlocated located)), nofun⟩
  | some location =>
    cases sendable : location.isSendable with
    | false =>
      refine ⟨fun sends => absurd sends (not_sends_of_blocks (.unsendable located sendable)), ?_⟩
      rintro ⟨_, same, impossible, _⟩
      cases same
      rw [sendable] at impossible
      cases impossible
    | true =>
      rw [(send_bind_sends located sendable opened silent).iff_of_same]
      constructor
      · intro holds
        exact ⟨location, rfl, sendable, holds⟩
      · rintro ⟨_, same, _, holds⟩
        cases same
        exact holds

end

/-- What is known already is found without acts. -/
theorem ofExcept_silent (result : Except Failure α) :
    (Script.ofExcept result).Follows fun acts _ => acts = [] :=
  (Script.Follows.ofExcept result).mono fun _ _ ended => ended.1

/-- An inquiry is one request, and nothing follows it. -/
theorem inquire_sends_iff_located {client : Client} (opened : client.closed = false)
    (inquiry : Inquiry) (id : String) {kind : Request → Prop} :
    (client.inquire inquiry id).Sends kind ↔
      ∃ location, client.locate? (inquiry.path id) inquiry.parameter = some location ∧
        location.isSendable = true ∧ kind (client.getAt location) := by
  cases inquiry with
  | run | artifact => exact send_bind_sends_iff opened fun _ => ofExcept_silent _
  | download =>
    refine send_bind_sends_iff opened fun reply => ?_
    split
    · exact Script.Follows.after_log fun _ => ofExcept_silent _
    · exact Script.Follows.halt rfl

end Client

/-! ## Paths of resources -/

namespace Inquiry

variable {base : Base}

/-- The path under which the resources of an inquiry stand. -/
def place (base : Base) : Inquiry → List Char
  | run => base.stem ++ '/' :: "apis/v2beta1/runs".toList
  | artifact | download => base.stem ++ '/' :: "apis/v2beta1/artifacts".toList

theorem place_append (base : Base) (inquiry : Inquiry) (rest : List Char) :
    base.stem ++ (apiRoot ++ inquiry.collection).toList ++ rest =
      inquiry.place base ++ '/' :: rest := by
  cases inquiry <;> simp [place, apiRoot, collection]

theorem plain_place (directory : base.IsDirectory) (inquiry : Inquiry) :
    ∀ segment ∈ Text.pieces '/' (inquiry.place base), isDotSegment segment = false := by
  have below : ∀ rest, (∀ segment ∈ Text.pieces '/' rest, isDotSegment segment = false) →
      ∀ segment ∈ Text.pieces '/' (base.stem ++ '/' :: rest), isDotSegment segment = false := by
    intro rest plain segment among
    rw [Text.pieces_append_separator] at among
    rcases List.mem_append.mp among with among | among
    · exact directory.plain segment among
    · exact plain segment among
  cases inquiry with
  | run => exact below _ (by decide)
  | artifact | download => exact below _ (by decide)

/-- The path of an inquiry as it is written, and as it stands under a base. -/
theorem exists_front (base : Base) (inquiry : Inquiry) : ∃ front : List Char,
    (∀ id, (inquiry.path id).toList = '/' :: 'a' :: front ++ id.toList) ∧
      (∀ c ∈ '/' :: 'a' :: front, keptInPath c = true) ∧
      ∀ rest, base.under ('/' :: 'a' :: front ++ rest) =
        inquiry.place base ++ '/' :: Percent.encode keptInPath rest := by
  have escaped : ∀ front rest, Percent.encode keptInPath front = front →
      Percent.encode keptInPath (front ++ rest) = front ++ Percent.encode keptInPath rest := by
    intro front rest same
    rw [Percent.encode_append, same]
  cases inquiry with
  | run =>
    refine ⟨"pis/v2beta1/runs/".toList, fun id => ?_, List.all_eq_true.mp (by decide),
      fun rest => ?_⟩
    · simp [path, apiRoot, collection]
    · rw [Base.under, escaped _ _ (by decide)]
      simp [place]
  | artifact | download =>
    refine ⟨"pis/v2beta1/artifacts/".toList, fun id => ?_, List.all_eq_true.mp (by decide),
      fun rest => ?_⟩
    · simp [path, apiRoot, collection]
    · rw [Base.under, escaped _ _ (by decide)]
      simp [place]

theorem not_mem_of_kept {front : List Char} (kept : ∀ c ∈ front, keptInPath c = true) {c : Char}
    (given : keptInPath c = false) : c ∉ front := fun among => by
  rw [kept c among] at given
  cases given

/-- Where an inquiry is sent: to what the identifier is cut to, under its place. -/
theorem of_locate? {client : Client} (directory : client.base.IsDirectory) {inquiry : Inquiry}
    {id : String} {location : Location}
    (located : client.locate? (inquiry.path id) inquiry.parameter = some location) :
    location.path = resolvePath (inquiry.place client.base ++
        '/' :: Percent.encode keptInPath (Text.before '?' (Text.before '#' id.toList))) ∧
      (location.query = inquiry.query ↔
        inquiry = .download ∨ '?' ∉ Text.before '#' id.toList) := by
  obtain ⟨front, written, kept, placed⟩ := exists_front client.base inquiry
  have unmarked : '#' ∉ '/' :: 'a' :: front := not_mem_of_kept kept (by decide)
  have unasked : '?' ∉ '/' :: 'a' :: front := not_mem_of_kept kept (by decide)
  unfold Client.locate? at located
  rw [written, List.cons_append, List.cons_append] at located
  obtain ⟨path, query⟩ := Base.of_resolve? directory (by decide) (by decide) located
  have cut : Text.before '#' ('/' :: 'a' :: (front ++ id.toList)) =
      '/' :: 'a' :: front ++ Text.before '#' id.toList := Text.before_prepend unmarked _
  rw [cut, Text.before_prepend unasked, ← Base.under, placed] at path
  rw [cut, Text.after?_prepend unasked] at query
  refine ⟨path, ?_⟩
  rw [query]
  have unqueried : ((Text.after? '?' (Text.before '#' id.toList)).map
      (Percent.encode keptInQuery)).map (Percent.encode keptInQuery) = none ↔
        '?' ∉ Text.before '#' id.toList := by
    rw [Option.map_eq_none_iff, Option.map_eq_none_iff]
    exact ⟨Text.not_mem_of_after?_eq_none, Text.after?_of_not_mem⟩
  cases inquiry with
  | run | artifact => simpa [Inquiry.parameter, Inquiry.query] using unqueried
  | download =>
    have same : Percent.encode keptInQuery (Form.parameter "view" "DOWNLOAD") =
        "view=DOWNLOAD".toList := by decide
    simp [Inquiry.parameter, Inquiry.query, same]

end Inquiry

/-! ## Identifiers that reach their resource -/

section

variable {client : Client} {inquiry : Inquiry} {id : String} {location : Location}

/-- An identifier whose inquiry is sent to its resource is a segment that stands for itself. -/
theorem isSegment_of_addresses (directory : client.base.IsDirectory)
    (located : client.locate? (inquiry.path id) inquiry.parameter = some location)
    (addresses : Addresses client.base inquiry id (client.getAt location)) :
    IsSegment id.toList := by
  obtain ⟨path, _⟩ := Inquiry.of_locate? directory located
  obtain ⟨segment, shown, single, denotes⟩ := addresses.path
  change location.path = _ at shown
  rw [Inquiry.place_append] at shown
  obtain ⟨among, plain⟩ := mem_pieces_of_resolvePath (Inquiry.plain_place directory inquiry)
    single (path.symm.trans shown)
  rw [pieces_encode slash_kept] at among
  obtain ⟨piece, listed, rfl⟩ := List.mem_map.mp among
  rw [Percent.decode_encode keepsEscapes_keptInPath] at denotes
  have kept := Percent.length_decode_le piece
  have part := (Text.infix_of_mem_pieces listed).length_le
  have asked := Text.isPrefix_before '?' (Text.before '#' id.toList)
  have marked := Text.isPrefix_before '#' id.toList
  have shorter := asked.length_le
  have short := marked.length_le
  rw [denotes] at kept
  have unescaped : Percent.escapes piece = 0 := by omega
  rw [Percent.decode_eq_self_iff.mpr unescaped] at denotes
  subst denotes
  have unmarked := marked.eq_of_length (by omega)
  rw [unmarked] at asked part shorter
  have unasked := asked.eq_of_length (by omega)
  exact
    { single := Text.separator_not_mem_of_mem_pieces listed
      unasked := Text.not_mem_of_before_eq unasked
      unmarked := Text.not_mem_of_before_eq unmarked
      plain := by rwa [isDotSegment_encode (by decide)] at plain
      unescaped }

/-- The inquiry for a segment that stands for itself is sent to its resource. -/
theorem IsSegment.addresses (segment : IsSegment id.toList) (directory : client.base.IsDirectory)
    (located : client.locate? (inquiry.path id) inquiry.parameter = some location) :
    Addresses client.base inquiry id (client.getAt location) := by
  obtain ⟨path, query⟩ := Inquiry.of_locate? directory located
  rw [Text.before_of_not_mem segment.unmarked, Text.before_of_not_mem segment.unasked] at path
  rw [Text.before_of_not_mem segment.unmarked] at query
  have alone : '/' ∉ Percent.encode keptInPath id.toList := slash_not_mem_encode segment.single
  refine ⟨rfl, ⟨Percent.encode keptInPath id.toList, ?_, alone, ?_⟩,
    query.mpr (.inr segment.unasked)⟩
  · rw [Inquiry.place_append]
    refine path.trans (resolvePath_of_plain (Inquiry.plain_place directory inquiry) alone ?_)
    rw [isDotSegment_encode (by decide)]
    exact segment.plain
  · rw [Percent.decode_encode keepsEscapes_keptInPath]
    exact Percent.decode_eq_self_iff.mpr segment.unescaped

end

/-- A request is the one for a single resource. -/
theorem Addresses.unique {base : Base} {inquiry other : Inquiry} {id otherId : String}
    {request : Request} (addresses : Addresses base inquiry id request)
    (also : Addresses base other otherId request) :
    other.collection = inquiry.collection ∧ otherId = id := by
  obtain ⟨segment, path, _, denotes⟩ := addresses.path
  obtain ⟨again, same, _, denoted⟩ := also.path
  rw [path, Inquiry.place_append, Inquiry.place_append] at same
  have ids : again = segment → otherId = id := by
    rintro rfl
    exact String.toList_inj.mp (denoted.symm.trans denotes)
  cases inquiry <;> cases other <;> simp [Inquiry.place] at same <;>
    exact ⟨rfl, ids same.symm⟩

/-- The paths of the interface that belong to no single resource. -/
def endpoints : List String :=
  ["/pipelines", "/pipelines/upload", "/runs", "/artifacts"]

theorem Addresses.not_endpoint {base : Base} {inquiry : Inquiry} {id : String} {request : Request}
    (addresses : Addresses base inquiry id request) :
    ∀ endpoint ∈ endpoints, request.location.path ≠ base.stem ++ (apiRoot ++ endpoint).toList := by
  obtain ⟨segment, path, _, _⟩ := addresses.path
  intro endpoint among same
  rw [path, Inquiry.place_append] at same
  simp only [endpoints, List.mem_cons, List.not_mem_nil, or_false] at among
  rcases among with rfl | rfl | rfl | rfl <;> cases inquiry <;>
    simp [Inquiry.place, apiRoot] at same

/-! ## Identifiers that may stand in a URL -/

section

variable {base : Base} {inquiry : Inquiry} {id : String}

/-- A segment that stands for itself is kept by the base. -/
theorem keeps_of_isSegment (directory : base.IsDirectory) (segment : IsSegment id.toList) :
    base.Keeps (inquiry.path id).toList := by
  obtain ⟨front, written, kept, placed⟩ := Inquiry.exists_front base inquiry
  have free : ∀ {c}, keptInPath c = false → c ∉ id.toList → c ∉ (inquiry.path id).toList := by
    intro c given free
    rw [written, List.mem_append]
    exact not_or.mpr ⟨Inquiry.not_mem_of_kept kept given, free⟩
  have resolved : resolvePath (base.under (inquiry.path id).toList) =
      base.under (inquiry.path id).toList := by
    rw [written, placed]
    refine resolvePath_of_plain (Inquiry.plain_place directory inquiry)
      (slash_not_mem_encode segment.single) ?_
    rw [isDotSegment_encode (by decide)]
    exact segment.plain
  exact
    { opening := ⟨'a', front ++ id.toList, written id, by decide, by decide⟩
      unasked := free (by decide) segment.unasked
      unmarked := free (by decide) segment.unmarked
      resolved }

theorem isAcceptable_path_iff
    (bounded : (base.under (inquiry.path id).toList).length ≤ lengthLimit) :
    isAcceptable (inquiry.path id).toList = true ↔
      ∀ c ∈ id.toList, 0x20 ≤ c.toNat ∧ c.toNat ≠ 0x7F := by
  obtain ⟨front, written, kept, _⟩ := Inquiry.exists_front base inquiry
  have escaped := Percent.length_le_encode keptInPath (inquiry.path id).toList
  rw [Base.under, List.length_append] at bounded
  have short : (inquiry.path id).toList.length ≤ lengthLimit := by omega
  rw [isAcceptable_iff, and_iff_right short, written, List.forall_mem_append]
  exact and_iff_right fun c among => uncontrolled_of_kept (kept c among)

/-- The request for a segment that stands for itself can be built exactly if the segment may
stand in a URL and the collection itself can be requested. -/
theorem reaches_iff {client : Client} (directory : client.base.IsDirectory)
    (segment : IsSegment id.toList) :
    client.Reaches (inquiry.path id) inquiry.parameter ↔
      Fits client.base inquiry id ∧ client.Reaches (inquiry.path "") inquiry.parameter := by
  have keeps : client.base.Keeps (inquiry.path id).toList := keeps_of_isSegment directory segment
  have bare : client.base.Keeps (inquiry.path "").toList := keeps_of_isSegment directory (by decide)
  have ascii : ∀ text, ∀ c ∈ client.base.under text, Percent.isAscii c = true :=
    fun text c among =>
      decide_eq_true (keepsEscapes_keptInPath.ascii c (directory.kept_append text c among))
  unfold Client.Reaches Client.locate?
  constructor
  · rintro ⟨location, located, sendable⟩
    obtain ⟨acceptable, bounded⟩ := keeps.acceptable directory located
    have shorter : (client.base.under (inquiry.path "").toList).length ≤
        (client.base.under (inquiry.path id).toList).length := by
      obtain ⟨front, written, _, placed⟩ := Inquiry.exists_front client.base inquiry
      rw [written, written, placed, placed]
      simp [Percent.encode]
    exact ⟨⟨(isAcceptable_path_iff bounded).mp acceptable, bounded⟩, _,
      keeps.resolve?_other bare directory located
        ((isAcceptable_path_iff (shorter.trans bounded)).mpr (by simp)) (shorter.trans bounded),
      Location.isSendable_of_path sendable (ascii _)⟩
  · rintro ⟨⟨uncontrolled, bounded⟩, location, located, sendable⟩
    exact ⟨_,
      bare.resolve?_other keeps directory located
        ((isAcceptable_path_iff bounded).mpr uncontrolled) bounded,
      Location.isSendable_of_path sendable (ascii _)⟩

end

namespace Client

theorem of_ofConfig {config : PlatformConfig} {patience : Nat} {client : Client}
    (made : ofConfig config patience = .ok client) :
    Base.ofText? config.apiUrl = some client.base ∧ client.closed = false := by
  unfold ofConfig at made
  split at made
  · cases made
  · rename_i base named
    simp only at made
    split at made
    · cases made
    · cases made
      exact ⟨named, rfl⟩

/-- An inquiry reaches the resource with the identifier exactly if the identifier is a
segment that stands for itself and may stand in a URL. -/
theorem sends_addresses_iff {client : Client} (directory : client.base.IsDirectory)
    (opened : client.closed = false) (inquiry : Inquiry) (id : String) :
    (client.inquire inquiry id).Sends (Addresses client.base inquiry id) ↔
      IsSegment id.toList ∧ Fits client.base inquiry id ∧
        client.Reaches (inquiry.path "") inquiry.parameter := by
  rw [inquire_sends_iff_located opened]
  constructor
  · rintro ⟨location, located, sendable, addresses⟩
    have segment := isSegment_of_addresses directory located addresses
    exact ⟨segment, (reaches_iff directory segment).mp ⟨location, located, sendable⟩⟩
  · rintro ⟨segment, reaches⟩
    obtain ⟨location, located, sendable⟩ := (reaches_iff directory segment).mpr reaches
    exact ⟨location, located, sendable, segment.addresses directory located⟩

/-- For every base URL without a query and every identifier: the inquiry is one request
for the resource with the identifier, exactly if the identifier is a segment that stands
for itself and may stand in a URL, and the collection itself can be requested. A request
for a resource is one for no other, and for no other endpoint. -/
theorem inquire_sends_iff {config : PlatformConfig} {patience : Nat} {client : Client}
    (made : ofConfig config patience = .ok client) (absolute : client.base.location.scheme ≠ [])
    (bare : client.base.location.query = none) (inquiry : Inquiry) (id : String) :
    ((client.inquire inquiry id).Sends (Addresses client.base inquiry id) ↔
        IsSegment id.toList ∧ Fits client.base inquiry id ∧
          client.Reaches (inquiry.path "") inquiry.parameter) ∧
      ∀ request, Addresses client.base inquiry id request →
        (∀ other otherId, Addresses client.base other otherId request →
            other.collection = inquiry.collection ∧ otherId = id) ∧
          ∀ endpoint ∈ endpoints,
            request.location.path ≠ client.base.stem ++ (apiRoot ++ endpoint).toList := by
  obtain ⟨named, opened⟩ := of_ofConfig made
  have directory := Base.isDirectory_of_ofText? named absolute bare
  exact ⟨sends_addresses_iff directory opened inquiry id, fun _ addresses =>
    ⟨fun _ _ also => addresses.unique also, addresses.not_endpoint⟩⟩

/-- Blanks, signs, letters beyond ASCII and percent signs that begin no escape are
reached. -/
theorem inquire_sends_of_signs :
    ofConfig { apiUrl := "http://api:8888/ds" } = .ok nestedClient ∧
      nestedClient.base.location.scheme ≠ [] ∧ nestedClient.base.location.query = none ∧
        (nestedClient.inquire .download "é 1%+;=&@:~").Sends
          (Addresses nestedClient.base .download "é 1%+;=&@:~") :=
  ⟨nestedClient_made, by decide, by decide,
    (inquire_sends_iff nestedClient_made (by decide) (by decide) .download "é 1%+;=&@:~").1.mpr
      ⟨by decide, ⟨(isAcceptable_iff.mp (by decide)).2, by decide⟩, by decide⟩⟩

/-- What follows a `#` is not sent: the inquiry for the artifact `a#b` reaches `a`. -/
theorem inquire_marked_reaches_other :
    (nestedClient.inquire .artifact "a#b").Sends (Addresses nestedClient.base .artifact "a") ∧
      ¬ (nestedClient.inquire .artifact "a#b").Sends
        (Addresses nestedClient.base .artifact "a#b") := by
  have directory : nestedClient.base.IsDirectory :=
    Base.isDirectory_of_ofText? (of_ofConfig nestedClient_made).1 (by decide) (by decide)
  constructor
  · obtain ⟨location, located, sendable, addresses⟩ :=
      (inquire_sends_iff_located rfl .artifact "a").mp
        ((sends_addresses_iff directory rfl .artifact "a").mpr
          ⟨by decide, ⟨(isAcceptable_iff.mp (by decide)).2, by decide⟩, by decide⟩)
    refine (inquire_sends_iff_located rfl .artifact "a#b").mpr
      ⟨location, ?_, sendable, addresses⟩
    rw [← located]
    decide
  · intro sends
    exact absurd ((sends_addresses_iff directory rfl .artifact "a#b").mp sends).1 (by decide)

end Client

end ArtifactAudit.Platform
