import ArtifactAudit.Proofs.Encoding.Reading
import ArtifactAudit.Proofs.Url.Joining
import ArtifactAudit.Url.Download

/-!
# Download addresses in normal form

An address is accepted if it is cut into a scheme, an authority that passes the checks
and has a valid port, and a resource (`normalize_eq_ok_iff`). Its normal form is cut into
the same components with the path and the query escaped anew (`exists_parts`): what the
query holds once it is decoded is escaped again, and what the path may not hold is
escaped, so no text passes from one component into another
(`normalize_preserves_components`).

Neither component reads differently afterwards, and escaping it once more changes nothing
(`normalize_preserves_reading`). The query consists of unreserved characters and escapes,
and the path holds no character that a path may not hold (`normalize_alphabet`).
-/

set_option autoImplicit false

namespace ArtifactAudit.Url

open Text
open Percent (toNat_lt_of_isUnreserved hidesSign_isUnreserved)

/-! ## What a path keeps -/

theorem keepsInPath_of_isUnreserved {c : Char} (unreserved : Percent.isUnreserved c = true) :
    keepsInPath c = true := by
  rw [keepsInPath, unreserved, Bool.true_or]

theorem toNat_lt_of_keepsInPath {c : Char} (kept : keepsInPath c = true) : c.toNat < 128 := by
  rcases Bool.or_eq_true_iff.mp kept with unreserved | delimiter
  · exact toNat_lt_of_isUnreserved unreserved
  · have ascii : "/%:@!$&'()*+,;=".toList.all (·.toNat < 128) = true := by decide
    exact of_decide_eq_true (List.all_eq_true.mp ascii c (List.contains_iff_mem.mp delimiter))

theorem keepsEscapes_keepsInPath : Percent.KeepsEscapes keepsInPath where
  sign := by decide
  digit _ digit := Text.forall_ascii
    (p := fun c => (hexValue? c).isSome = true → keepsInPath c = true) (by decide +kernel)
    (Percent.toNat_lt_of_digit digit) digit
  ascii _ := toNat_lt_of_keepsInPath

/-- A text of unreserved characters and escapes may stand in a path. -/
theorem keepsInPath_of_isEscaped {s : List Char} (escaped : Percent.IsEscaped s) {c : Char}
    (among : c ∈ s) : keepsInPath c = true := by
  rcases escaped.isUnreserved_of_mem among with unreserved | rfl
  · exact keepsInPath_of_isUnreserved unreserved
  · decide

theorem keepsInPath_of_mem_reescapeQuery {query : List Char} {c : Char}
    (among : c ∈ reescapeQuery query) : keepsInPath c = true :=
  keepsInPath_of_isEscaped (Percent.isEscaped_encode (fun _ => id) (Percent.decode query)) among

theorem keepsInPath_of_mem_escapePath {path : List Char} {c : Char} (among : c ∈ escapePath path) :
    keepsInPath c = true :=
  keepsEscapes_keepsInPath.of_mem_encode among

/-- What holds of the characters of ASCII that a path keeps holds of all that it keeps. -/
theorem of_keepsInPath {p : Char → Prop}
    (holds : ∀ code < 128, keepsInPath (Char.ofNat code) = true → p (Char.ofNat code)) {c : Char}
    (kept : keepsInPath c = true) : p c :=
  Text.forall_ascii (p := fun c => keepsInPath c = true → p c) holds
    (toNat_lt_of_keepsInPath kept) kept

theorem isSignificant_of_keepsInPath {c : Char} (kept : keepsInPath c = true) :
    isSignificant c = true :=
  of_keepsInPath (p := (isSignificant · = true)) (by decide +kernel) kept

/-! ## Escaping the components anew -/

theorem reescapeQuery_reescapeQuery (query : List Char) :
    reescapeQuery (reescapeQuery query) = reescapeQuery query := by
  rw [reescapeQuery, reescapeQuery, Percent.decode_encode_of_hidden hidesSign_isUnreserved]

/-- Only an empty query leaves nothing behind. -/
theorem reescapeQuery_eq_nil_iff {query : List Char} : reescapeQuery query = [] ↔ query = [] := by
  rw [reescapeQuery, Percent.encode_eq_nil_iff, Percent.decode_eq_nil_iff]

namespace Components

variable {url : Components}

/-- Escaping the components a second time changes nothing. -/
theorem reescape_reescape (url : Components) : url.reescape.reescape = url.reescape := by
  have path : escapePath (escapePath url.path) = escapePath url.path :=
    Percent.encode_encode keepsEscapes_keepsInPath url.path
  simp only [reescape, path, reescapeQuery_reescapeQuery]

/-- A path and a query of kept characters end no other component. -/
theorem IsSeparable.with_kept (separable : url.IsSeparable) {path query : List Char}
    (rooted : ∀ c ∈ path.head?, c = '/') (keptInPath : ∀ c ∈ path, keepsInPath c = true)
    (keptInQuery : ∀ c ∈ query, keepsInPath c = true) : { url with path, query }.IsSeparable where
  scheme := separable.scheme
  lower := separable.lower
  authority := separable.authority
  rooted := rooted
  unasked among := absurd (keptInPath _ among) (by decide)
  unmarked :=
    ⟨fun among => absurd (keptInPath _ among) (by decide),
      fun among => absurd (keptInQuery _ among) (by decide)⟩
  significant c among := by
    have parts := separable.significant c
    simp only [List.mem_append] at among parts
    rcases among with ((among | among) | among) | among
    · exact parts (.inl (.inl (.inl among)))
    · exact isSignificant_of_keepsInPath (keptInPath c among)
    · exact isSignificant_of_keepsInPath (keptInQuery c among)
    · exact parts (.inr among)

/-- A path is escaped behind its first slash. -/
theorem IsSeparable.head?_escapePath (separable : url.IsSeparable) :
    ∀ c ∈ (escapePath url.path).head?, c = '/' := by
  intro c first
  cases path : url.path with
  | nil =>
    rw [path] at first
    cases first
  | cons d rest =>
    obtain rfl : d = '/' := separable.rooted d (by rw [path]; rfl)
    rw [path] at first
    exact (Option.some_inj.mp first).symm

/-- With any text escaped for its query, an escaped path leaves no delimiter of another
component behind. -/
theorem IsSeparable.escaped (separable : url.IsSeparable) (text : List Char) :
    { url with
      path := escapePath url.path
      query := Percent.encode Percent.isUnreserved text }.IsSeparable :=
  separable.with_kept separable.head?_escapePath (fun _ => keepsInPath_of_mem_escapePath)
    fun _ => keepsInPath_of_isEscaped (Percent.isEscaped_encode (fun _ => id) text)

theorem IsSeparable.reescape (separable : url.IsSeparable) : url.reescape.IsSeparable :=
  separable.escaped (Percent.decode url.query)

end Components

/-! ## Accepted addresses -/

theorem splitChecked_eq_ok_iff {s : List Char} {url : Components} :
    splitChecked s = .ok url ↔ split s = .ok url ∧ ∃ port, url.port = .ok port := by
  unfold splitChecked
  cases splits : split s with
  | error error => simp [Except.bind]
  | ok found =>
    cases port : found.port with
    | error error =>
      simp only [Except.bind, port, Except.map, Except.ok.injEq]
      constructor
      · intro impossible
        cases impossible
      · rintro ⟨rfl, number, valid⟩
        rw [port] at valid
        cases valid
    | ok number =>
      simp only [Except.bind, port, Except.map, Except.ok.injEq]
      constructor
      · rintro rfl
        exact ⟨rfl, number, port⟩
      · exact fun ⟨same, _⟩ => same

/-- What is accepted, and what it becomes. -/
theorem normalize_eq_ok_iff {raw url : String} :
    normalize raw = .ok url ↔ ∃ parts,
      (split (strip raw.toList) = .ok parts ∧ ∃ port, parts.port = .ok port) ∧
        (parts.scheme ≠ [] ∧ parts.authority ≠ []) ∧ parts.reescape.join = url.toList := by
  have spells : ∀ s : List Char, String.ofList s = url ↔ s = url.toList := by
    intro s
    constructor
    · rintro rfl
      exact (String.toList_ofList).symm
    · rintro rfl
      exact String.ofList_toList
  unfold normalize
  cases checked : splitChecked (strip raw.toList) with
  | error error =>
    constructor
    · intro impossible
      cases impossible
    · rintro ⟨parts, splits, _⟩
      rw [splitChecked_eq_ok_iff.mpr splits] at checked
      cases checked
  | ok found =>
    have splits := splitChecked_eq_ok_iff.mp checked
    have absolute : (found.scheme.isEmpty || found.authority.isEmpty) = false ↔
        found.scheme ≠ [] ∧ found.authority ≠ [] := by
      simp [Bool.or_eq_false_iff]
    constructor
    · intro accepted
      simp only at accepted
      split at accepted
      · cases accepted
      · rename_i given
        exact ⟨found, splits, absolute.mp (Bool.eq_false_iff.mpr given),
          (spells _).mp (Except.ok.inj accepted)⟩
    · rintro ⟨parts, others, present, joined⟩
      obtain rfl : found = parts := Except.ok.inj (splits.1.symm.trans others.1)
      simp only [absolute.mpr present, Bool.false_eq_true, if_false]
      rw [(spells _).mpr joined]

/-- Written down, separable components are read as they are if their authority passes the
checks. -/
theorem Components.IsSeparable.split_written {url : Components} (separable : url.IsSeparable)
    {s : List Char} {parts : Components} (splits : split s = .ok parts)
    (same : parts.authority = url.authority) : split url.written = .ok url := by
  obtain ⟨_, brackets, forms⟩ := split_eq_ok_iff.mp splits
  rw [same] at brackets forms
  exact split_eq_ok_iff.mpr ⟨separable.cut_written, brackets, forms⟩

/-- The components of an accepted address are separable, and its normal form consists of
them, with path and query escaped anew. -/
theorem exists_parts {raw url : String} (accepted : normalize raw = .ok url) :
    ∃ parts port, split (strip raw.toList) = .ok parts ∧ parts.port = .ok port ∧
      parts.scheme ≠ [] ∧ parts.authority ≠ [] ∧ parts.IsSeparable ∧
        parts.reescape.written = url.toList ∧ split url.toList = .ok parts.reescape := by
  obtain ⟨parts, ⟨splits, port, valid⟩, ⟨scheme, authority⟩, joined⟩ :=
    normalize_eq_ok_iff.mp accepted
  have separable : parts.IsSeparable := by
    obtain ⟨rfl, _⟩ := split_eq_ok_iff.mp splits
    exact isSeparable_cut scheme authority
  have written : parts.reescape.join = parts.reescape.written :=
    Components.join_eq scheme authority separable.reescape.rooted
  have again : split parts.reescape.written = .ok parts.reescape :=
    separable.reescape.split_written splits rfl
  rw [← joined, written]
  exact ⟨parts, port, splits, valid, scheme, authority, separable, rfl, again⟩

/-- An accepted address begins with a scheme. -/
theorem opensWithScheme_of_normalize {raw url : String} (accepted : normalize raw = .ok url) :
    OpensWithScheme url.toList := by
  obtain ⟨parts, _, _, _, _, _, separable, written, _⟩ := exists_parts accepted
  refine ⟨parts.scheme, separable.scheme, parts.authority ++ parts.reescape.resource, ?_⟩
  rw [← written, List.append_assoc]
  rfl

/-! ## Components -/

/-- The normal form of an accepted address has the components of the address, with the
path and the decoded query escaped. The scheme and the authority are given, and the port
is the same; and whatever the query reads as, the other components are told apart from
it. -/
theorem normalize_preserves_components {raw url : String} (accepted : normalize raw = .ok url) :
    ∃ parts port written, split (strip raw.toList) = .ok parts ∧ parts.port = .ok port ∧
      parts.scheme ≠ [] ∧ parts.authority ≠ [] ∧
      split url.toList = .ok written ∧ written.port = .ok port ∧
      written =
        { scheme := parts.scheme
          authority := parts.authority
          path := Percent.encode keepsInPath parts.path
          query := Percent.encode Percent.isUnreserved (Percent.decode parts.query)
          fragment := parts.fragment } ∧
      ∀ text, split { written with query := Percent.encode Percent.isUnreserved text }.join =
        .ok { written with query := Percent.encode Percent.isUnreserved text } := by
  obtain ⟨parts, port, splits, valid, scheme, authority, separable, _, again⟩ :=
    exists_parts accepted
  refine ⟨parts, port, parts.reescape, splits, valid, scheme, authority, again, valid, rfl, ?_⟩
  intro text
  have replaced := separable.escaped text
  have joined : Components.join { parts.reescape with
      query := Percent.encode Percent.isUnreserved text } = Components.written _ :=
    Components.join_eq scheme authority replaced.rooted
  rw [joined]
  exact replaced.split_written splits rfl

/-- An address whose query holds the delimiters of all other components in escapes, and
whose fragment holds one of a query. -/
theorem normalize_preserves_components_of_hidden_delimiters :
    normalize "HTTP://u@[::1]:80/a b?x=%23%3F%2F@:#f?g" =
        .ok "http://u@[::1]:80/a%20b?x%3D%23%3F%2F%40%3A#f?g" ∧
      ∃ written, split "http://u@[::1]:80/a%20b?x%3D%23%3F%2F%40%3A#f?g".toList = .ok written ∧
        written.port = .ok (some 80) ∧
        written =
          { scheme := "http".toList
            authority := "u@[::1]:80".toList
            path := Percent.encode keepsInPath "/a b".toList
            query := Percent.encode Percent.isUnreserved (Percent.decode "x=%23%3F%2F@:".toList)
            fragment := "f?g".toList } := by
  have accepted : normalize "HTTP://u@[::1]:80/a b?x=%23%3F%2F@:#f?g" =
      .ok "http://u@[::1]:80/a%20b?x%3D%23%3F%2F%40%3A#f?g" :=
    rfl
  obtain ⟨parts, port, written, splits, valid, _, _, again, valid', same, _⟩ :=
    normalize_preserves_components accepted
  have cuts : split (strip "HTTP://u@[::1]:80/a b?x=%23%3F%2F@:#f?g".toList) =
      .ok ⟨"http".toList, "u@[::1]:80".toList, "/a b".toList, "x=%23%3F%2F@:".toList,
        "f?g".toList⟩ :=
    rfl
  obtain rfl := Except.ok.inj (splits.symm.trans cuts)
  obtain rfl : some 80 = port := Except.ok.inj valid
  exact ⟨accepted, written, again, valid', same⟩

/-! ## Reading -/

/-- The path and the query of the normal form read as those of the address do, and
escaping them once more changes nothing. -/
theorem normalize_preserves_reading {raw url : String} (accepted : normalize raw = .ok url) :
    ∃ parts written, split (strip raw.toList) = .ok parts ∧ split url.toList = .ok written ∧
      Percent.decode written.path = Percent.decode parts.path ∧
      Percent.decode written.query = Percent.decode parts.query ∧
      Percent.encode keepsInPath written.path = written.path ∧
      Percent.encode Percent.isUnreserved (Percent.decode written.query) = written.query := by
  obtain ⟨parts, _, splits, _, _, _, _, _, again⟩ := exists_parts accepted
  refine ⟨parts, parts.reescape, splits, again, ?_, ?_, ?_, ?_⟩
  · exact Percent.decode_encode keepsEscapes_keepsInPath parts.path
  · exact Percent.decode_encode_of_hidden hidesSign_isUnreserved (Percent.decode parts.query)
  · exact Percent.encode_encode keepsEscapes_keepsInPath parts.path
  · exact reescapeQuery_reescapeQuery parts.query

/-- An address with escapes that are cut short, next to characters beyond ASCII. -/
theorem normalize_preserves_reading_of_cut_escapes :
    normalize "s://h/%4é%C3é%?%E2%82é%2541%" =
        .ok "s://h/%4%C3%A9%C3%C3%A9%?%EF%BF%BD%C3%A9%2541%25" ∧
      ∃ written, split "s://h/%4%C3%A9%C3%C3%A9%?%EF%BF%BD%C3%A9%2541%25".toList = .ok written ∧
        Percent.decode written.path = "/%4é\ufffdé%".toList ∧
        Percent.decode written.query = "\ufffdé%41%".toList := by
  have accepted : normalize "s://h/%4é%C3é%?%E2%82é%2541%" =
      .ok "s://h/%4%C3%A9%C3%C3%A9%?%EF%BF%BD%C3%A9%2541%25" :=
    rfl
  obtain ⟨parts, written, splits, again, path, query, _⟩ := normalize_preserves_reading accepted
  have cuts : split (strip "s://h/%4é%C3é%?%E2%82é%2541%".toList) =
      .ok ⟨"s".toList, "h".toList, "/%4é%C3é%".toList, "%E2%82é%2541%".toList, []⟩ :=
    rfl
  obtain rfl := Except.ok.inj (splits.symm.trans cuts)
  refine ⟨accepted, written, again, path.trans ?_, query.trans ?_⟩
  · rfl
  · rfl

/-! ## Alphabets -/

/-- The query of the normal form, that is, what stands between its first question mark
and its first number sign, is a sequence of unreserved characters and of escapes, and its
path holds unreserved characters and the permitted delimiters only. -/
theorem normalize_alphabet {raw url : String} (accepted : normalize raw = .ok url) :
    ∃ written, split url.toList = .ok written ∧
      written.query = after '?' (before '#' url.toList) ∧
      Percent.IsEscaped written.query ∧
      (∀ c ∈ written.query, c ∉ "&=;+'\"$ ".toList) ∧
      (∀ c ∈ written.path, Percent.isUnreserved c = true ∨ c ∈ "/%:@!$&'()*+,;=~".toList) ∧
      ∀ c ∈ written.path, 0x20 < c.toNat ∧ c.toNat < 0x7F ∧
        c ∉ "\"\\`[]\x7b\x7d|<>^?#".toList := by
  obtain ⟨parts, _, _, _, _, _, separable, written, again⟩ := exists_parts accepted
  have escaped : Percent.IsEscaped parts.reescape.query :=
    Percent.isEscaped_encode (fun _ => id) (Percent.decode parts.query)
  have path : ∀ c ∈ parts.reescape.path, keepsInPath c = true :=
    fun _ => keepsInPath_of_mem_escapePath
  refine ⟨parts.reescape, again, ?_, escaped, ?_, ?_, ?_⟩
  · rw [← written]
    exact separable.reescape.query_written.symm
  · intro c among
    rcases escaped.isUnreserved_of_mem among with unreserved | rfl
    · exact Text.forall_ascii
        (p := fun c => Percent.isUnreserved c = true → c ∉ "&=;+'\"$ ".toList)
        (by decide +kernel) (toNat_lt_of_isUnreserved unreserved) unreserved
    · decide
  · intro c among
    exact of_keepsInPath
      (p := fun c => Percent.isUnreserved c = true ∨ c ∈ "/%:@!$&'()*+,;=~".toList)
      (by decide +kernel) (path c among)
  · intro c among
    exact of_keepsInPath
      (p := fun c => 0x20 < c.toNat ∧ c.toNat < 0x7F ∧ c ∉ "\"\\`[]\x7b\x7d|<>^?#".toList)
      (by decide +kernel) (path c among)

/-- An address with forbidden characters in its path and delimiters of all kinds in its
query, and with more of them in its fragment. -/
theorem normalize_alphabet_of_delimiters :
    normalize "s://h/<a>\\|?k='v'&é;+%25 #?&" =
        .ok "s://h/%3Ca%3E%5C%7C?k%3D%27v%27%26%C3%A9%3B%2B%25%20#?&" ∧
      Percent.IsEscaped "k%3D%27v%27%26%C3%A9%3B%2B%25%20".toList := by
  have accepted : normalize "s://h/<a>\\|?k='v'&é;+%25 #?&" =
      .ok "s://h/%3Ca%3E%5C%7C?k%3D%27v%27%26%C3%A9%3B%2B%25%20#?&" :=
    rfl
  obtain ⟨written, _, query, escaped, _⟩ := normalize_alphabet accepted
  rw [query] at escaped
  exact ⟨accepted, escaped⟩

end ArtifactAudit.Url
