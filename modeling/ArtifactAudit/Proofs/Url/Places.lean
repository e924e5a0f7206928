import ArtifactAudit.Proofs.Url.Query

/-!
# Places under a base

Every base has a place of its own, to which the reference `/` leads. It ends in a slash, and
what a request appends to the base is put behind that slash: in the path, or in the query if
the base has one. A parameter replaces the query and leaves the rest (`Base.reached_of_resolve?`).
So a request differs from the place of its base in nothing but what it appends itself.
-/

set_option autoImplicit false

namespace ArtifactAudit.Url

open Text

/-! ## Paths that are resolved -/

theorem keepsEscapes_keptInQuery : Percent.KeepsEscapes keptInQuery where
  sign := by decide
  digit c digit := by
    have kept := keptInPath_of_digit digit
    simp only [keptInPath, Bool.and_eq_true] at kept
    exact kept.1
  ascii c kept := by
    have visible := isVisible_of_keptInQuery kept
    omega

theorem keptInQuery_of_keptInPath {c : Char} (kept : keptInPath c = true) :
    keptInQuery c = true := by
  simp only [keptInPath, Bool.and_eq_true] at kept
  exact kept.1

/-- A path without dot segments is resolved already. -/
theorem resolvePath_of_forall_plain {path : List Char}
    (plain : ∀ segment ∈ pieces '/' path, isDotSegment segment = false) :
    resolvePath path = path := by
  rw [resolvePath_eq, resolveSegments_of_plain plain, joinPieces_pieces]

/-- The beginning of what may stand in a URL may stand there. -/
theorem isAcceptable_of_prefix {s front : List Char} (acceptable : isAcceptable s = true)
    (opens : front <+: s) : isAcceptable front = true := by
  rw [isAcceptable_iff] at acceptable ⊢
  exact ⟨opens.length_le.trans acceptable.1, fun c among =>
    acceptable.2 c (opens.subset among)⟩

namespace Location

/-- Whether a location has a scheme or an authority. Only then paths are resolved. -/
def isRooted (location : Location) : Bool :=
  !location.scheme.isEmpty ||
    (!location.user.isEmpty || !location.host.isEmpty || location.port.isSome)

/-- The path that a location makes of a path. -/
def settle (location : Location) (path : List Char) : List Char :=
  Percent.encode keptInPath (if location.isRooted then resolvePath path else path)

/-- The path as it stands in a request. -/
def resource (location : Location) : List Char :=
  if location.path.isEmpty then ['/'] else location.path

theorem target_eq (location : Location) :
    location.target = location.resource ++ (location.query.map ('?' :: ·)).getD [] :=
  rfl

/-- Whether a path is left as it is under a location: nothing of it is escaped, and it has no
dot segments where they are resolved. -/
structure Leaves (location : Location) (path : List Char) : Prop where
  kept : ∀ c ∈ path, keptInPath c = true
  plain : location.isRooted = true → ∀ segment ∈ pieces '/' path, isDotSegment segment = false

variable {location found : Location} {path front : List Char} {query other : Option (List Char)}

theorem Leaves.settle_eq (leaves : location.Leaves path) : location.settle path = path := by
  unfold settle
  split
  · rename_i rooted
    rw [resolvePath_of_forall_plain (leaves.plain rooted), Percent.encode_of_kept leaves.kept]
  · exact Percent.encode_of_kept leaves.kept

/-- A path that was settled is left as it is. -/
theorem leaves_settle (location : Location) (path : List Char) :
    location.Leaves (location.settle path) := by
  refine ⟨fun c among => keepsEscapes_keptInPath.of_mem_encode among, ?_⟩
  intro rooted segment among
  rw [settle, if_pos rooted, pieces_encode slash_kept] at among
  obtain ⟨plain, listed, rfl⟩ := List.mem_map.mp among
  rw [isDotSegment_encode (by decide)]
  exact isDotSegment_of_mem_pieces listed

/-- It does not depend on the path and the query of the location. -/
theorem Leaves.elsewhere {location : Location} {front : List Char} (leaves : location.Leaves front)
    (path : List Char) (query : Option (List Char)) :
    { location with path, query }.Leaves front :=
  ⟨leaves.kept, leaves.plain⟩

/-- Segments that are left as they are may follow others. -/
theorem Leaves.append {location : Location} {front rest : List Char}
    (leaves : location.Leaves (front ++ ['/'])) (kept : ∀ c ∈ rest, keptInPath c = true)
    (plain : ∀ segment ∈ pieces '/' rest, isDotSegment segment = false) :
    location.Leaves (front ++ '/' :: rest) := by
  refine ⟨fun c among => ?_, fun rooted segment among => ?_⟩
  · rw [List.append_cons] at among
    exact (List.mem_append.mp among).elim (leaves.kept c) (kept c)
  · have before := leaves.plain rooted
    rw [pieces_append_separator] at among before
    exact (List.mem_append.mp among).elim
      (fun among => before segment (List.mem_append_left _ among)) (plain segment)

/-! ## Another path at the same place -/

/-- What a location that is read from a reference has of it. -/
theorem settled_of_ofReference? {reference : Reference}
    (reads : ofReference? reference = some found) :
    found.path = found.settle reference.path ∧
      found.query = reference.query.map (Percent.encode keptInQuery) := by
  unfold ofReference? at reads
  obtain ⟨host, _, reads⟩ := Option.bind_eq_some_iff.mp reads
  obtain ⟨port, _, reads⟩ := Option.bind_eq_some_iff.mp reads
  simp only at reads
  split at reads
  · cases reads
    exact ⟨rfl, rfl⟩
  · cases reads

theorem exists_reference (reads : location.withResource? path query = some found) :
    ∃ reference, ofReference? reference = some found ∧ reference.path = path ∧
      reference.query = query := by
  unfold withResource? at reads
  simp only at reads
  split at reads
  · exact ⟨_, reads, rfl, rfl⟩
  · cases reads

theorem settled_of_withResource? (reads : location.withResource? path query = some found) :
    found.path = found.settle path ∧ found.query = query.map (Percent.encode keptInQuery) := by
  obtain ⟨reference, read, rfl, rfl⟩ := exists_reference reads
  exact settled_of_ofReference? read

/-- The beginning of a path that is allowed is allowed. -/
theorem allowsPath_of_isPrefix {hasScheme hasAuthority : Bool}
    (allows : allowsPath hasScheme hasAuthority path = true) (opens : front <+: path) :
    allowsPath hasScheme hasAuthority front = true := by
  have closed : ∀ sign : List Char, sign.isPrefixOf front = true → sign.isPrefixOf path = true := by
    intro sign begins
    rw [List.isPrefixOf_iff_prefix] at begins ⊢
    exact begins.trans opens
  simp only [allowsPath, Bool.and_eq_true, Bool.or_eq_true, Bool.not_eq_true',
    Bool.or_eq_false_iff, beq_iff_eq, List.isEmpty_iff] at allows ⊢
  obtain ⟨below, apart⟩ := allows
  constructor
  · cases front with
    | nil => exact .inl (.inr rfl)
    | cons c front =>
      obtain ⟨rest, rfl⟩ := opens
      simpa using below
  · rcases apart with given | ⟨slashes, colon⟩
    · exact .inl given
    · exact .inr ⟨Bool.eq_false_iff.mpr fun begins => by simp [closed _ begins] at slashes,
        Bool.eq_false_iff.mpr fun begins => by simp [closed _ begins] at colon⟩

/-- Where a path can be put, the beginning of the path can be put as well, with any query, and
nothing else changes. -/
theorem withResource?_of_start (reads : location.withResource? path query = some found)
    (opens : front <+: path) (acceptable : ∀ asked ∈ other, isAcceptable asked = true) :
    location.withResource? front other =
      some { found with
        path := found.settle front, query := other.map (Percent.encode keptInQuery) } := by
  have asks : other.all isAcceptable = true := by
    cases other with
    | none => rfl
    | some asked => exact acceptable asked rfl
  unfold withResource? at reads ⊢
  simp only [Reference.isAcceptable, Bool.and_eq_true] at reads ⊢
  split at reads
  · rename_i fits
    obtain ⟨⟨⟨⟨scheme, authority⟩, path⟩, _⟩, marked⟩ := fits
    rw [if_pos ⟨⟨⟨⟨scheme, authority⟩, isAcceptable_of_prefix path opens⟩, asks⟩, marked⟩]
    simp only [ofReference?] at reads ⊢
    generalize splitHost location.authority = cut at reads ⊢
    obtain ⟨host, named, reads⟩ := Option.bind_eq_some_iff.mp reads
    obtain ⟨port, numbered, reads⟩ := Option.bind_eq_some_iff.mp reads
    rw [named, Option.bind_some, numbered, Option.bind_some]
    split at reads
    · rename_i allows
      cases reads
      rw [if_pos (allowsPath_of_isPrefix allows opens)]
      rfl
    · cases reads
  · cases reads

/-- A path that is left as it is stays so at the same place. -/
theorem withResource?_front (reads : location.withResource? path query = some found)
    (opens : front <+: path) (leaves : found.Leaves front)
    (acceptable : ∀ asked ∈ other, isAcceptable asked = true) :
    location.withResource? front other =
      some { found with path := front, query := other.map (Percent.encode keptInQuery) } := by
  rw [withResource?_of_start reads opens acceptable, leaves.settle_eq]

theorem query_acceptable_of_withResource?
    (reads : location.withResource? path query = some found) :
    ∀ asked ∈ query, isAcceptable asked = true := by
  rintro asked rfl
  unfold withResource? at reads
  simp only [Reference.isAcceptable, Bool.and_eq_true] at reads
  split at reads
  · rename_i fits
    exact fits.1.2
  · cases reads

/-- Without a scheme and an authority there are none in another path's location. -/
theorem isRooted_of_withResource? (reads : location.withResource? path query = some found)
    (rooted : found.isRooted = true) : location.isRooted = true := by
  by_contra unrooted
  simp only [isRooted, Bool.or_eq_true, Bool.not_eq_true', not_or, Bool.not_eq_false,
    List.isEmpty_iff, Bool.not_eq_true, Option.isSome_eq_false_iff, Option.isNone_iff_eq_none]
    at unrooted
  obtain ⟨scheme, ⟨user, host⟩, port⟩ := unrooted
  have authority : location.authority = [] := by simp [authority, user, host, port]
  unfold withResource? at reads
  simp only [scheme, authority] at reads
  split at reads
  · have place : splitHost [] = ([], [], []) := rfl
    have named : encodeHost? [] = some [] := rfl
    have numbered : readPort? [] [] = some none := rfl
    simp only [ofReference?, place, named, numbered, Option.bind_some] at reads
    split at reads
    · cases reads
      simp [isRooted, Percent.encode] at rooted
    · cases reads
  · cases reads

/-- A path that is left as it is under a location stays so. -/
theorem Leaves.of_withResource? (leaves : location.Leaves front)
    (reads : location.withResource? path query = some found) : found.Leaves front :=
  ⟨leaves.kept, fun rooted => leaves.plain (isRooted_of_withResource? reads rooted)⟩

end Location

/-! ## Settled bases -/

/-- Whether a base lies at a place of its own: its path and its query hold what they keep, the
path has no dot segments where they are resolved, and what it points to ends in a slash. -/
structure Base.IsSettled (base : Base) : Prop where
  resource : base.location.Leaves base.location.resource
  asked : ∀ asked ∈ base.location.query, ∀ c ∈ asked, keptInQuery c = true
  ends : base.location.target.getLast? = some '/'

theorem Base.isSettled_of_ofReference? {reference : Reference} {location : Location}
    (reads : Location.ofReference? reference = some location)
    (ends : location.target.getLast? = some '/') : (Base.mk location).IsSettled := by
  obtain ⟨path, query⟩ := Location.settled_of_ofReference? reads
  refine ⟨?_, ?_, ends⟩
  · change location.Leaves location.resource
    unfold Location.resource
    split
    · exact ⟨by simp [slash_kept], fun _ => by decide⟩
    · rw [path]
      exact location.leaves_settle reference.path
  · rintro asked given c among
    rw [query] at given
    obtain ⟨_, _, rfl⟩ := Option.map_eq_some_iff.mp (Option.mem_def.mp given)
    exact keepsEscapes_keptInQuery.of_mem_encode among

/-- A path with a slash at its end keeps it. -/
theorem Location.settle_append_slash (location : Location) (path : List Char) :
    location.settle (path ++ ['/']) = [] ∨
      ∃ front, location.settle (path ++ ['/']) = front ++ ['/'] := by
  have last : Percent.encode keptInPath ['/'] = ['/'] := by decide
  unfold settle
  split
  · rcases resolvePath_append_slash path with nothing | ⟨front, same⟩
    · exact .inl (by rw [nothing]; rfl)
    · exact .inr ⟨Percent.encode keptInPath front, by rw [same, Percent.encode_append, last]⟩
  · exact .inr ⟨Percent.encode keptInPath path, by rw [Percent.encode_append, last]⟩

/-- What is read from a target that ends in a slash points to something that ends in one. -/
theorem Location.target_ends_of_withTarget? {location found : Location} {target : List Char}
    (reads : location.withTarget? (target ++ ['/']) = some found) :
    found.target.getLast? = some '/' := by
  obtain ⟨path, query⟩ := Location.settled_of_withResource? reads
  rw [target_eq, resource, query, path]
  by_cases free : '?' ∈ target
  · obtain ⟨front, rest, rfl, unasked⟩ := List.eq_append_cons_of_mem free
    have last : Percent.encode keptInQuery ['/'] = ['/'] := by decide
    rw [List.append_assoc, List.cons_append, after?_append unasked, Option.map_some,
      Option.map_some, Option.getD_some, Percent.encode_append, last, List.getLast?_append]
    have final : ('?' :: Percent.encode keptInQuery rest ++ ['/']).getLast? = some '/' :=
      List.getLast?_concat
    rw [List.cons_append] at final
    rw [final]
    rfl
  · have unasked : '?' ∉ target ++ ['/'] := by simp [free]
    rw [before_of_not_mem unasked, after?_of_not_mem unasked]
    rcases found.settle_append_slash target with nothing | ⟨front, same⟩
    · rw [nothing]
      rfl
    · rw [same]
      simp

/-- The base that a text names lies at a place of its own. -/
theorem Base.isSettled_of_ofText? {text : String} {base : Base}
    (names : Base.ofText? text = some base) : base.IsSettled := by
  unfold Base.ofText? at names
  obtain ⟨location, reads, names⟩ := Option.bind_eq_some_iff.mp names
  split at names
  · rename_i ends
    cases names
    obtain ⟨reference, _, reads⟩ := Option.bind_eq_some_iff.mp reads
    exact isSettled_of_ofReference? reads ends
  · obtain ⟨found, moved, rfl⟩ := Option.map_eq_some_iff.mp names
    obtain ⟨reference, read, _, _⟩ := Location.exists_reference moved
    exact isSettled_of_ofReference? read (Location.target_ends_of_withTarget? moved)

/-! ## What a request appends -/

/-- Whether a location is that of a request under a place: what is appended stands behind the
slash at the end of the path, or of the query, and a query that is given takes the place of the
other one. -/
inductive Reached (place : Location) (rest : List Char) : Option (List Char) → Location → Prop where
  | path {front : List Char} :
      place.path = front ++ ['/'] →
        Reached place rest none { place with path := front ++ '/' :: rest }
  | query {asked : List Char} :
      place.query = some (asked ++ ['/']) →
        Reached place rest none { place with query := some (asked ++ '/' :: rest) }
  /-- The query is given, and the rest stands in the path. -/
  | parameter {front query : List Char} :
      place.path = front ++ ['/'] →
        Reached place rest (some query)
          { place with path := front ++ '/' :: rest, query := some query }
  /-- The query is given, and the rest would have stood in it. -/
  | replaced {query : List Char} :
      Reached place rest (some query) { place with query := some query }

namespace Location

variable {location found place : Location} {path rest query : List Char}

/-- What is put behind the slash of a path stands there. -/
theorem reached_of_path {front : List Char} (whole : location.Leaves (front ++ ['/']))
    (kept : ∀ c ∈ rest, keptInPath c = true)
    (plain : ∀ segment ∈ pieces '/' rest, isDotSegment segment = false)
    (reads : location.withResource? (front ++ '/' :: rest) none = some found) :
    ∃ place, location.withResource? (front ++ ['/']) none = some place ∧
      place.Leaves place.path ∧ found.Leaves found.path ∧ Reached place rest none found := by
  have bare : ∀ asked ∈ (none : Option (List Char)), isAcceptable asked = true := nofun
  have short := whole.of_withResource? reads
  have long := short.append kept plain
  obtain ⟨path, asked⟩ := settled_of_withResource? reads
  rw [long.settle_eq] at path
  refine ⟨_, withResource?_front reads ⟨rest, by simp⟩ short bare, short.elsewhere _ _,
    by rwa [path], ?_⟩
  obtain ⟨scheme, user, host, port, _, _, fragment⟩ := found
  obtain rfl := path
  obtain rfl := asked
  exact .path rfl

/-- What is put behind the slash of a query stands there. -/
theorem reached_of_query {front : List Char} (leaves : location.Leaves path)
    (asks : ∀ c ∈ front ++ ['/'], keptInQuery c = true) (kept : ∀ c ∈ rest, keptInPath c = true)
    (reads : location.withResource? path (some (front ++ '/' :: rest)) = some found) :
    ∃ place, location.withResource? path (some (front ++ ['/'])) = some place ∧
      place.Leaves place.path ∧ found.Leaves found.path ∧ Reached place rest none found := by
  have acceptable : ∀ asked ∈ some (front ++ ['/']), isAcceptable asked = true := by
    intro asked given
    obtain rfl := Option.some.inj (Option.mem_def.mp given)
    exact isAcceptable_of_prefix (query_acceptable_of_withResource? reads _ rfl) ⟨rest, by simp⟩
  have longer : ∀ c ∈ front ++ '/' :: rest, keptInQuery c = true := by
    intro c among
    rw [List.append_cons] at among
    exact (List.mem_append.mp among).elim (asks c) fun among =>
      keptInQuery_of_keptInPath (kept c among)
  have stays := leaves.of_withResource? reads
  have place := withResource?_front reads (List.prefix_refl _) stays acceptable
  obtain ⟨path, carried⟩ := settled_of_withResource? reads
  rw [stays.settle_eq] at path
  rw [Option.map_some, Percent.encode_of_kept asks] at place
  rw [Option.map_some, Percent.encode_of_kept longer] at carried
  refine ⟨_, place, stays.elsewhere _ _, by rwa [path], ?_⟩
  obtain ⟨scheme, user, host, port, _, _, fragment⟩ := found
  obtain rfl := path
  obtain rfl := carried
  exact .query rfl

/-- What is put behind the target of a settled base stands behind its slash. -/
theorem reached_of_withTarget? (settled : (Base.mk location).IsSettled)
    (kept : ∀ c ∈ rest, keptInPath c = true)
    (plain : ∀ segment ∈ pieces '/' rest, isDotSegment segment = false)
    (reads : location.withTarget? (location.target ++ rest) = some found) :
    ∃ place, location.withTarget? location.target = some place ∧
      place.Leaves place.path ∧ found.Leaves found.path ∧ Reached place rest none found := by
  obtain ⟨resource, asks, ends⟩ := settled
  change location.Leaves location.resource at resource
  change location.target.getLast? = some '/' at ends
  have shown := target_eq location
  have unasked : ∀ path : List Char, (∀ c ∈ path, keptInPath c = true) → '?' ∉ path :=
    fun path kept among => absurd (kept '?' among) (by decide)
  cases query : location.query with
  | none =>
    have cut : ∀ path, location.Leaves path →
        location.withTarget? path = location.withResource? path none := fun path leaves => by
      simpa using withTarget?_eq (unasked path leaves.kept) none
    rw [query, Option.map_none, Option.getD_none, List.append_nil] at shown
    obtain ⟨front, same⟩ := List.getLast?_eq_some_iff.mp ends
    rw [← shown, same] at resource
    rw [same, ← List.append_cons, cut _ (resource.append kept plain)] at reads
    rw [same, cut _ resource]
    exact reached_of_path resource kept plain reads
  | some asked =>
    have cut : ∀ asked, location.withTarget? (location.resource ++ '?' :: asked) =
        location.withResource? location.resource (some asked) := fun asked =>
      withTarget?_eq (unasked _ resource.kept) (some asked)
    rw [query, Option.map_some, Option.getD_some] at shown
    obtain ⟨front, rfl⟩ : ∃ front, asked = front ++ ['/'] := by
      rw [shown, List.getLast?_append] at ends
      rcases List.eq_nil_or_concat asked with rfl | ⟨front, last, rfl⟩
      · simp at ends
      · rw [List.concat_eq_append, ← List.cons_append, List.getLast?_concat] at ends
        obtain rfl : last = '/' := by simpa using ends
        exact ⟨front, List.concat_eq_append⟩
    rw [shown, List.append_assoc, List.cons_append, ← List.append_cons, cut] at reads
    rw [shown, cut]
    exact reached_of_query resource (asks _ query) kept reads

/-- A query that is given is put at the same place. -/
theorem reached_of_withResource? {final : Location} (leaves : place.Leaves place.path)
    (kept : found.Leaves found.path) (reached : Reached place rest none found)
    (reads : found.withResource? found.path (some query) = some final) :
    ∃ empty, place.withResource? place.path (some []) = some empty ∧
      Reached empty rest (some (Percent.encode keptInQuery query)) final := by
  obtain ⟨path, asked⟩ := settled_of_withResource? reads
  rw [(kept.of_withResource? reads).settle_eq] at path
  rw [Option.map_some] at asked
  have empty : ∀ asked ∈ some ([] : List Char), isAcceptable asked = true := by
    simp; decide
  cases reached with
  | path ends =>
    rename_i front
    have opens : place.path <+: front ++ '/' :: rest := by
      rw [ends]
      exact ⟨rest, by simp⟩
    have moved : place.withResource? (front ++ '/' :: rest) (some query) = some final := reads
    refine ⟨_, withResource?_front moved opens (leaves.of_withResource? moved) empty, ?_⟩
    obtain ⟨scheme, user, host, port, _, _, fragment⟩ := final
    obtain rfl := path
    obtain rfl := asked
    exact .parameter ends
  | query =>
    have moved : place.withResource? place.path (some query) = some final := reads
    refine ⟨_, withResource?_front moved (List.prefix_refl _) (leaves.of_withResource? moved) empty,
      ?_⟩
    obtain ⟨scheme, user, host, port, _, _, fragment⟩ := final
    obtain rfl := path
    obtain rfl := asked
    exact .replaced

end Location

/-- A location with a query put in the place of its own, if one is given. -/
def Location.ask? (location : Location) : Option (List Char) → Option Location
  | some query => location.withResource? location.path (some query)
  | none => some location

/-- A reference that is a path is put behind the target of the base without its slash. -/
theorem Base.resolve?_of_path {base : Base} {first : Char} {rest : List Char}
    (kept : keptInPath first = true) (other : first ≠ '/') (unasked : '?' ∉ rest)
    (unmarked : '#' ∉ rest) (query : Option (List Char)) :
    base.resolve? ('/' :: first :: rest) query =
      if isAcceptable ('/' :: first :: rest) then
        (base.location.withTarget?
          (base.location.target ++ Percent.encode keptInPath (first :: rest))).bind (·.ask? query)
      else none := by
  have free : ∀ sign, keptInPath sign = false → sign ≠ '/' → sign ∉ rest →
      sign ∉ '/' :: first :: rest := by
    intro sign given apart free
    simp only [List.mem_cons, not_or]
    refine ⟨apart, ?_, free⟩
    rintro rfl
    rw [kept] at given
    cases given
  have whole : before '?' (before '#' ('/' :: first :: rest)) = '/' :: first :: rest := by
    rw [before_of_not_mem (free '#' (by decide) (by decide) unmarked),
      before_of_not_mem (free '?' (by decide) (by decide) unasked)]
  have bare : after? '?' (before '#' ('/' :: first :: rest)) = none := by
    rw [before_of_not_mem (free '#' (by decide) (by decide) unmarked),
      after?_of_not_mem (free '?' (by decide) (by decide) unasked)]
  have escaped : Percent.encode keptInPath ('/' :: first :: rest) =
      '/' :: first :: Percent.encode keptInPath rest := by
    rw [Percent.encode_cons, Percent.encode_cons, Percent.encodeChar_kept slash_kept,
      Percent.encodeChar_kept kept]
    rfl
  have behind : Percent.encode keptInPath (first :: rest) =
      first :: Percent.encode keptInPath rest := by
    rw [Percent.encode_cons, Percent.encodeChar_kept kept]
    rfl
  rw [resolve?, Location.ofText?_path other, whole, bare, escaped, behind]
  split
  · cases query <;> simp [Location.target, Location.ask?, other]
  · rfl

/-- The reference `/` leads to the target of the base. -/
theorem Base.resolve?_slash (base : Base) (query : Option (List Char)) :
    base.resolve? ['/'] query =
      (base.location.withTarget? base.location.target).bind (·.ask? query) := by
  have read : Location.ofText? ['/'] = some
      { scheme := [], user := [], host := [], port := none, path := ['/'], query := none
        fragment := none } := by
    decide
  rw [resolve?, read]
  cases query <;> simp [Location.target, Location.ask?]

/-- A request under a settled base goes to the place of the base, but for what it appends, if
this is a path without dot segments. -/
theorem Base.reached_of_resolve? {base : Base} (settled : base.IsSettled) {first : Char}
    {rest : List Char} {query : Option (List Char)} {location : Location}
    (kept : keptInPath first = true) (other : first ≠ '/') (unasked : '?' ∉ rest)
    (unmarked : '#' ∉ rest)
    (plain : ∀ segment ∈ pieces '/' (first :: rest), isDotSegment segment = false)
    (resolves : base.resolve? ('/' :: first :: rest) query = some location) :
    ∃ place, base.resolve? ['/'] (query.map fun _ => []) = some place ∧
      Reached place (Percent.encode keptInPath (first :: rest))
        (query.map (Percent.encode keptInQuery)) location := by
  rw [resolve?_of_path kept other unasked unmarked] at resolves
  split at resolves
  · obtain ⟨found, moved, asks⟩ := Option.bind_eq_some_iff.mp resolves
    have plainly : ∀ segment ∈ pieces '/' (Percent.encode keptInPath (first :: rest)),
        isDotSegment segment = false := by
      intro segment among
      rw [pieces_encode slash_kept] at among
      obtain ⟨piece, listed, rfl⟩ := List.mem_map.mp among
      rw [isDotSegment_encode (by decide)]
      exact plain piece listed
    obtain ⟨place, placed, leaves, stays, reached⟩ := Location.reached_of_withTarget? settled
      (fun c among => keepsEscapes_keptInPath.of_mem_encode among) plainly moved
    rw [resolve?_slash, placed, Option.bind_some]
    cases query with
    | none =>
      obtain rfl := Option.some.inj asks
      exact ⟨place, rfl, reached⟩
    | some query => exact Location.reached_of_withResource? leaves stays reached asks
  · cases resolves

end ArtifactAudit.Url
