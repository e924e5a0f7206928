import ArtifactAudit.Proofs.Url.Segments

/-!
# What a base makes of a reference

A base that a text names lies at a path that ends in a slash (`isDirectory_of_ofText?`).
What a request appends to it is cut at the first `#` and the first `?`, escaped and
resolved, and a parameter replaces what stands after the `?` (`Base.of_resolve?`).
-/

set_option autoImplicit false

namespace ArtifactAudit.Url

open Text

/-! ## What a path keeps -/

theorem keptInPath_of_digit {c : Char} (digit : (hexValue? c).isSome = true) :
    keptInPath c = true :=
  Text.forall_ascii (p := fun c => (hexValue? c).isSome = true → keptInPath c = true)
    (by decide +kernel) (Percent.toNat_lt_of_digit digit) digit

theorem keepsEscapes_keptInPath : Percent.KeepsEscapes keptInPath where
  sign := by decide
  digit _ := keptInPath_of_digit
  ascii c kept := by
    simp only [keptInPath, keptInQuery, isVisible, Bool.and_eq_true, decide_eq_true_eq] at kept
    omega

theorem slash_kept : keptInPath '/' = true := by decide

/-- A question mark in a path is escaped. -/
theorem not_mem_encode_keptInPath {c : Char} (given : keptInPath c = false) (s : List Char) :
    c ∉ Percent.encode keptInPath s := fun among => by
  rw [keepsEscapes_keptInPath.of_mem_encode among] at given
  cases given

/-! ## What may stand in a URL -/

theorem isAcceptable_iff {s : List Char} :
    isAcceptable s = true ↔
      s.length ≤ lengthLimit ∧ ∀ c ∈ s, 0x20 ≤ c.toNat ∧ c.toNat ≠ 0x7F := by
  simp [isAcceptable]

/-- A path keeps no control characters. -/
theorem uncontrolled_of_kept {c : Char} (kept : keptInPath c = true) :
    0x20 ≤ c.toNat ∧ c.toNat ≠ 0x7F := by
  simp only [keptInPath, keptInQuery, isVisible, Bool.and_eq_true, decide_eq_true_eq] at kept
  omega

/-- A path of kept characters may stand in a URL, unless it is too long. -/
theorem isAcceptable_of_kept {path : List Char} (kept : ∀ c ∈ path, keptInPath c = true)
    (bounded : path.length ≤ lengthLimit) : isAcceptable path = true :=
  isAcceptable_iff.mpr ⟨bounded, fun c among => uncontrolled_of_kept (kept c among)⟩

/-! ## Locations -/

namespace Location

/-- Whether a location shows a scheme, a path and a query as they are requested. -/
structure Shows (location : Location) (scheme path : List Char) (query : Option (List Char)) :
    Prop where
  named : location.scheme = scheme.map Char.toLower
  asked : location.query = query.map (Percent.encode keptInQuery)
  /-- With a scheme the path is resolved. -/
  resolved : scheme ≠ [] → location.path = Percent.encode keptInPath (resolvePath path)

theorem Shows.absolute_iff {location : Location} {scheme path : List Char}
    {query : Option (List Char)} (shows : location.Shows scheme path query) :
    location.scheme ≠ [] ↔ scheme ≠ [] := by
  rw [shows.named, Ne, List.map_eq_nil_iff]

theorem shows_of_ofReference? {reference : Reference} {location : Location}
    (reads : ofReference? reference = some location) :
    location.Shows reference.scheme reference.path reference.query := by
  unfold ofReference? at reads
  obtain ⟨host, _, reads⟩ := Option.bind_eq_some_iff.mp reads
  obtain ⟨port, _, reads⟩ := Option.bind_eq_some_iff.mp reads
  simp only at reads
  split at reads
  · cases reads
    refine ⟨rfl, rfl, fun absolute => ?_⟩
    have given : (!(reference.scheme.map Char.toLower).isEmpty) = true := by
      simpa using absolute
    rw [given]
    rfl
  · cases reads

variable {location found : Location} {path : List Char} {query : Option (List Char)}

theorem shows_of_withResource? (reads : location.withResource? path query = some found) :
    found.Shows location.scheme path query := by
  unfold withResource? at reads
  simp only at reads
  split at reads
  · exact shows_of_ofReference? reads
  · cases reads

/-- A path and a query are read from one text. -/
theorem withTarget?_eq (free : '?' ∉ path) (query : Option (List Char)) :
    location.withTarget? (path ++ (query.map ('?' :: ·)).getD []) =
      location.withResource? path query := by
  unfold withTarget?
  cases query with
  | none =>
    rw [Option.map_none, Option.getD_none, List.append_nil, before_of_not_mem free,
      after?_of_not_mem free]
  | some query =>
    rw [Option.map_some, Option.getD_some, before_append free, after?_append free]

/-! ### References without scheme and authority -/

theorem splitScheme_slash (rest : List Char) :
    Reference.splitScheme ('/' :: rest) = ([], '/' :: rest) := by
  have slash : isSchemeChar '/' = false := by decide
  simp [Reference.splitScheme, slash]

theorem splitAuthority_slash {first : Char} (other : first ≠ '/') (rest : List Char) :
    splitAuthority ('/' :: first :: rest) = ([], '/' :: first :: rest) := by
  unfold splitAuthority
  split
  · rename_i same
    exact absurd (List.cons.inj (List.cons.inj same).2).1 other
  · rfl

/-- A path in front of which no authority stands is allowed. -/
theorem allowsPath_of_prefix {first : Char} {rest path : List Char} (other : first ≠ '/')
    (front : path <+: '/' :: first :: rest) : allowsPath false false path = true := by
  have noAuthority : ['/', '/'].isPrefixOf path = false := by
    refine Bool.eq_false_iff.mpr fun opens => ?_
    obtain ⟨_, same⟩ := (List.isPrefixOf_iff_prefix.mp opens).trans front
    exact other (List.cons.inj (List.cons.inj same).2).1.symm
  have noScheme : [':'].isPrefixOf path = false := by
    refine Bool.eq_false_iff.mpr fun opens => ?_
    obtain ⟨_, same⟩ := (List.isPrefixOf_iff_prefix.mp opens).trans front
    exact absurd (List.cons.inj same).1 (by decide)
  simp [allowsPath, noAuthority, noScheme]

/-- A path alone is cut at the first `#` and the first `?`, and not resolved. -/
theorem ofText?_path {first : Char} {rest : List Char} (other : first ≠ '/') :
    ofText? ('/' :: first :: rest) =
      if isAcceptable ('/' :: first :: rest) then
        some
          { scheme := [], user := [], host := [], port := none
            path := Percent.encode keptInPath (before '?' (before '#' ('/' :: first :: rest)))
            query := (after? '?' (before '#' ('/' :: first :: rest))).map
              (Percent.encode keptInQuery)
            fragment := (after? '#' ('/' :: first :: rest)).map (Percent.encode keptInFragment) }
      else none := by
  have place : splitHost [] = ([], [], []) := rfl
  have host : encodeHost? [] = some [] := rfl
  have port : readPort? [] [] = some none := rfl
  have user : Percent.encode keptInUser [] = [] := rfl
  have allowed := allowsPath_of_prefix other
    ((isPrefix_before '?' _).trans (isPrefix_before '#' ('/' :: first :: rest)))
  simp only [ofText?, Reference.ofText?, splitScheme_slash, splitAuthority_slash other]
  split
  · simp only [Option.bind_some, ofReference?, place, host, port, user, List.map_nil,
      List.isEmpty_nil, Bool.not_true, Option.isSome_none, Bool.or_self, allowed, if_true,
      Bool.false_eq_true, if_false]
  · rfl

/-! ### Another path -/

/-- The place that a path is put under does not depend on the path but for its first
character. -/
theorem withResource?_other {other : List Char}
    (reads : location.withResource? path query = some found)
    (absolute : location.scheme ≠ []) (acceptable : isAcceptable other = true)
    (alike : other.head? = path.head?) :
    location.withResource? other query =
      some { found with path := Percent.encode keptInPath (resolvePath other) } := by
  have given : (!(location.scheme.map Char.toLower).isEmpty) = true := by simpa using absolute
  have allowed : ∀ hasAuthority,
      allowsPath true hasAuthority other = allowsPath true hasAuthority path := by
    intro hasAuthority
    have empty : other.isEmpty = path.isEmpty := by
      cases other <;> cases path <;> simp at alike ⊢
    simp [allowsPath, empty, alike]
  unfold withResource? at reads ⊢
  simp only [Reference.isAcceptable, Bool.and_eq_true] at reads ⊢
  split at reads
  · rename_i fits
    obtain ⟨⟨⟨⟨scheme, authority⟩, _⟩, asked⟩, marked⟩ := fits
    rw [if_pos ⟨⟨⟨⟨scheme, authority⟩, acceptable⟩, asked⟩, marked⟩]
    simp only [ofReference?, given, allowed, Bool.true_or, if_true] at reads ⊢
    generalize splitHost location.authority = cut at reads ⊢
    obtain ⟨host, named, reads⟩ := Option.bind_eq_some_iff.mp reads
    obtain ⟨port, numbered, reads⟩ := Option.bind_eq_some_iff.mp reads
    rw [named, Option.bind_some, numbered, Option.bind_some]
    split at reads
    · rename_i allows
      cases reads
      rw [if_pos allows]
    · cases reads
  · cases reads

theorem acceptable_of_withResource? (reads : location.withResource? path query = some found) :
    isAcceptable path = true := by
  unfold withResource? at reads
  simp only [Reference.isAcceptable, Bool.and_eq_true] at reads
  split at reads
  · rename_i fits
    exact fits.1.1.2
  · cases reads

/-- Another path in ASCII can be written as well. -/
theorem isSendable_of_path (sendable : location.isSendable = true)
    (ascii : ∀ c ∈ path, Percent.isAscii c = true) :
    { location with path }.isSendable = true := by
  have authority : { location with path }.authority = location.authority := rfl
  simp only [isSendable, text, authority, String.toList_ofList, List.all_append,
    Bool.and_eq_true] at sendable ⊢
  obtain ⟨⟨⟨front, _⟩, asked⟩, marked⟩ := sendable
  exact ⟨⟨⟨front, List.all_eq_true.mpr ascii⟩, asked⟩, marked⟩

end Location

/-! ## Bases -/

/-- The path of a base without the slash at its end. -/
def Base.stem (base : Base) : List Char :=
  base.location.target.dropLast

/-- Whether a base lies at a path that ends in a slash, and that is escaped and resolved. -/
structure Base.IsDirectory (base : Base) : Prop where
  absolute : base.location.scheme ≠ []
  target : base.location.target = base.stem ++ ['/']
  kept : ∀ c ∈ base.stem, keptInPath c = true
  plain : ∀ segment ∈ pieces '/' base.stem, isDotSegment segment = false

theorem Base.isDirectory_of_path {base : Base} {path : List Char}
    (absolute : base.location.scheme ≠ []) (bare : base.location.query = none)
    (resolved : base.location.path = Percent.encode keptInPath (resolvePath path))
    (ends : base.location.target.getLast? = some '/') : base.IsDirectory := by
  have target : base.location.target = base.stem ++ ['/'] := by
    obtain ⟨front, same⟩ := List.getLast?_eq_some_iff.mp ends
    rw [Base.stem, same, List.dropLast_concat]
  by_cases empty : base.location.path = []
  · have stem : base.stem = [] := by
      rw [Base.stem, Location.target, empty, bare]
      rfl
    refine ⟨absolute, target, ?_, ?_⟩
    · simp [stem]
    · rw [stem]
      decide
  · have shown : base.location.path = base.stem ++ '/' :: [] := by
      rw [← target, Location.target, bare]
      simp [empty]
    have segments : pieces '/' base.stem ++ pieces '/' [] =
        (pieces '/' (resolvePath path)).map (Percent.encode keptInPath) := by
      rw [← pieces_append_separator, ← shown, resolved, pieces_encode slash_kept]
    refine ⟨absolute, target, fun c among => ?_, fun segment among => ?_⟩
    · refine keepsEscapes_keptInPath.of_mem_encode (s := resolvePath path) ?_
      rw [← resolved, shown]
      exact List.mem_append_left _ among
    · have member := List.mem_append_left (pieces '/' []) among
      rw [segments] at member
      obtain ⟨old, listed, rfl⟩ := List.mem_map.mp member
      rw [isDotSegment_encode (by decide)]
      exact isDotSegment_of_mem_pieces listed

/-- What a base with a slash at the end of its path points to ends in a slash. -/
theorem Location.target_ends {location : Location} {path : List Char}
    (bare : location.query = none)
    (resolved : location.path = Percent.encode keptInPath (resolvePath (path ++ ['/']))) :
    location.target.getLast? = some '/' := by
  rw [Location.target, bare, resolved]
  rcases resolvePath_append_slash path with nothing | ⟨front, same⟩
  · rw [nothing]
    rfl
  · have last : Percent.encode keptInPath ['/'] = ['/'] := by decide
    rw [same, Percent.encode_append, last]
    simp

/-- A base that a text names without a query is a directory. -/
theorem Base.isDirectory_of_ofText? {text : String} {base : Base}
    (names : Base.ofText? text = some base) (absolute : base.location.scheme ≠ [])
    (bare : base.location.query = none) : base.IsDirectory := by
  unfold Base.ofText? at names
  obtain ⟨location, reads, names⟩ := Option.bind_eq_some_iff.mp names
  split at names
  · rename_i ends
    cases names
    obtain ⟨reference, _, reads⟩ := Option.bind_eq_some_iff.mp reads
    have shows := Location.shows_of_ofReference? reads
    exact Base.isDirectory_of_path absolute bare
      (shows.resolved (shows.absolute_iff.mp absolute)) ends
  · obtain ⟨found, moved, same⟩ := Option.map_eq_some_iff.mp names
    subst same
    have shows := Location.shows_of_withResource? moved
    have resolved := shows.resolved (shows.absolute_iff.mp absolute)
    have free : '?' ∉ location.target ++ ['/'] :=
      not_mem_of_after?_eq_none (Option.map_eq_none_iff.mp (shows.asked.symm.trans bare))
    rw [before_of_not_mem free] at resolved
    exact Base.isDirectory_of_path absolute bare resolved (Location.target_ends bare resolved)

/-- Resolving a path of kept characters leaves nothing to escape. -/
theorem encode_resolvePath {path : List Char} (kept : ∀ c ∈ path, keptInPath c = true) :
    Percent.encode keptInPath (resolvePath path) = resolvePath path :=
  Percent.encode_of_kept fun c among => by
    rcases mem_of_mem_resolvePath among with rfl | among
    · exact slash_kept
    · exact kept c among

/-- What stands under the stem of a base is kept. -/
theorem Base.IsDirectory.kept_append {base : Base} (directory : base.IsDirectory)
    (s : List Char) : ∀ c ∈ base.stem ++ Percent.encode keptInPath s, keptInPath c = true := by
  intro c among
  rcases List.mem_append.mp among with among | among
  · exact directory.kept c among
  · exact keepsEscapes_keptInPath.of_mem_encode among

/-- The path of a reference is put under the stem of the base, and a query that is given
replaces that of the reference. -/
theorem Base.resolve?_path {base : Base} (directory : base.IsDirectory) {first : Char}
    {rest : List Char} (kept : keptInPath first = true) (other : first ≠ '/')
    (query : Option (List Char)) :
    base.resolve? ('/' :: first :: rest) query =
      if isAcceptable ('/' :: first :: rest) then
        (base.location.withResource?
            (base.stem ++
              Percent.encode keptInPath (before '?' (before '#' ('/' :: first :: rest))))
            ((after? '?' (before '#' ('/' :: first :: rest))).map
              (Percent.encode keptInQuery))).bind fun location =>
          match query with
          | some query => location.withResource? location.path (some query)
          | none => some location
      else none := by
  obtain ⟨tail, shape⟩ :
      ∃ tail, before '?' (before '#' ('/' :: first :: rest)) = '/' :: first :: tail := by
    have mark : ∀ c, keptInPath c = false → first ≠ c := by
      rintro c free rfl
      rw [kept] at free
      cases free
    refine ⟨before '?' (before '#' rest), ?_⟩
    rw [before_cons (by decide), before_cons (mark '#' (by decide)), before_cons (by decide),
      before_cons (mark '?' (by decide))]
  have escaped : Percent.encode keptInPath ('/' :: first :: tail) =
      '/' :: first :: Percent.encode keptInPath tail := by
    rw [Percent.encode_cons, Percent.encode_cons, Percent.encodeChar_kept slash_kept,
      Percent.encodeChar_kept kept]
    rfl
  have free : '?' ∉ base.stem ++ '/' :: first :: Percent.encode keptInPath tail := by
    intro among
    rcases List.mem_append.mp among with among | among
    · exact absurd (directory.kept '?' among) (by decide)
    · rw [← escaped] at among
      exact not_mem_encode_keptInPath (by decide) _ among
  rw [resolve?, Location.ofText?_path other, shape, escaped, ← Location.withTarget?_eq free]
  split
  · rw [Option.bind_some]
    congr 1
    rw [directory.target, Location.target]
    simp [other]
  · rfl

/-- A request goes to the path of the reference under the stem of the base. -/
theorem Base.of_resolve? {base : Base} (directory : base.IsDirectory) {first : Char}
    {rest : List Char} {query : Option (List Char)} {location : Location}
    (kept : keptInPath first = true) (other : first ≠ '/')
    (resolves : base.resolve? ('/' :: first :: rest) query = some location) :
    location.path = resolvePath (base.stem ++
        Percent.encode keptInPath (before '?' (before '#' ('/' :: first :: rest)))) ∧
      location.query =
        (query.or ((after? '?' (before '#' ('/' :: first :: rest))).map
          (Percent.encode keptInQuery))).map (Percent.encode keptInQuery) := by
  rw [resolve?_path directory kept other] at resolves
  split at resolves
  · obtain ⟨found, moved, resolves⟩ := Option.bind_eq_some_iff.mp resolves
    have keeps := directory.kept_append (before '?' (before '#' ('/' :: first :: rest)))
    have shows := Location.shows_of_withResource? moved
    have resolved := shows.resolved directory.absolute
    rw [encode_resolvePath keeps] at resolved
    cases query with
    | none =>
      cases resolves
      exact ⟨resolved, shows.asked⟩
    | some query =>
      have again := Location.shows_of_withResource? resolves
      refine ⟨?_, again.asked⟩
      rw [again.resolved (shows.absolute_iff.mpr directory.absolute), resolved,
        resolvePath_resolvePath, encode_resolvePath keeps]
  · cases resolves

/-! ## References that are kept -/

/-- The path that a base makes of a reference. -/
def Base.under (base : Base) (reference : List Char) : List Char :=
  base.stem ++ Percent.encode keptInPath reference

/-- Whether a base keeps a reference: it is a path as a whole, and nothing of it is
resolved. -/
structure Base.Keeps (base : Base) (reference : List Char) : Prop where
  opening : ∃ first rest,
    reference = '/' :: first :: rest ∧ keptInPath first = true ∧ first ≠ '/'
  unasked : '?' ∉ reference
  unmarked : '#' ∉ reference
  resolved : resolvePath (base.under reference) = base.under reference

namespace Base.Keeps

variable {base : Base} {reference other : List Char} {query : Option (List Char)}
  {location : Location}

theorem resolve?_eq (keeps : base.Keeps reference) (directory : base.IsDirectory)
    (query : Option (List Char)) :
    base.resolve? reference query =
      if isAcceptable reference then
        (base.location.withResource? (base.under reference) none).bind fun location =>
          match query with
          | some query => location.withResource? location.path (some query)
          | none => some location
      else none := by
  obtain ⟨first, rest, rfl, kept, other⟩ := keeps.opening
  rw [resolve?_path directory kept other, before_of_not_mem keeps.unmarked,
    before_of_not_mem keeps.unasked, after?_of_not_mem keeps.unasked]
  rfl

theorem head?_under (keeps : base.Keeps reference) :
    (base.under reference).head? = base.stem.head?.or (some '/') := by
  obtain ⟨first, rest, rfl, _⟩ := keeps.opening
  rw [under, Percent.encode_cons, Percent.encodeChar_kept slash_kept, List.head?_append]
  rfl

/-- What a request can be built for may stand in a URL, as it is written and as it is
escaped. -/
theorem acceptable (keeps : base.Keeps reference) (directory : base.IsDirectory)
    (resolves : base.resolve? reference query = some location) :
    isAcceptable reference = true ∧ (base.under reference).length ≤ lengthLimit := by
  rw [keeps.resolve?_eq directory] at resolves
  split at resolves
  · rename_i acceptable
    obtain ⟨found, moved, _⟩ := Option.bind_eq_some_iff.mp resolves
    exact ⟨acceptable, (isAcceptable_iff.mp (Location.acceptable_of_withResource? moved)).1⟩
  · cases resolves

/-- If a request can be built for one reference, it can be built for another, unless that
may not stand in a URL. -/
theorem resolve?_other (keeps : base.Keeps reference) (also : base.Keeps other)
    (directory : base.IsDirectory)
    (resolves : base.resolve? reference query = some location)
    (acceptable : isAcceptable other = true)
    (bounded : (base.under other).length ≤ lengthLimit) :
    base.resolve? other query = some { location with path := base.under other } := by
  have fits : isAcceptable (base.under other) = true :=
    isAcceptable_of_kept (directory.kept_append other) bounded
  have alike : (base.under other).head? = (base.under reference).head? := by
    rw [also.head?_under, keeps.head?_under]
  have same : ∀ {text}, base.Keeps text →
      Percent.encode keptInPath (resolvePath (base.under text)) = base.under text := by
    intro text keeps
    rw [keeps.resolved]
    exact Percent.encode_of_kept (directory.kept_append text)
  rw [keeps.resolve?_eq directory] at resolves
  rw [also.resolve?_eq directory, if_pos acceptable]
  split at resolves
  · obtain ⟨found, moved, resolves⟩ := Option.bind_eq_some_iff.mp resolves
    have shows := Location.shows_of_withResource? moved
    have place : found.path = base.under reference := by
      rw [shows.resolved directory.absolute, same keeps]
    rw [Location.withResource?_other moved directory.absolute fits alike, same also,
      Option.bind_some]
    cases query with
    | none =>
      cases resolves
      rfl
    | some query =>
      rw [place] at resolves
      have again := Location.withResource?_other resolves
        (shows.absolute_iff.mpr directory.absolute) fits alike
      rw [same also] at again
      exact again
  · cases resolves

end Base.Keeps

end ArtifactAudit.Url
