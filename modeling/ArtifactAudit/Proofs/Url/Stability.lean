import ArtifactAudit.Proofs.Text.Blank
import ArtifactAudit.Proofs.Url.Download

/-!
# Normalizing a second time

Normalizing strips an address before it cuts it, and leaves nothing to escape. So a
second run can do no more than strip the normal form. That takes something away exactly
if nothing stands behind the authority and the authority ends in a blank: the delimiter
that kept the blank inside the address is dropped with the empty component it introduced
(`normalize_fixed_iff`). Whatever a second run gives is stripped, and a third one leaves
it alone.
-/

set_option autoImplicit false

namespace ArtifactAudit.Url

open Text

namespace Components

variable {url : Components}

/-- Whether the text of a URL ends in a blank of its authority. -/
structure EndsInBlank (url : Components) : Prop where
  path : url.path = []
  query : url.query = []
  fragment : url.fragment = []
  blank : ∃ c ∈ url.authority.getLast?, isBlank c = true

/-- The components without the blanks that the text ends in. -/
def trimmed (url : Components) : Components :=
  if url.resource = [] then { url with authority := dropEndWhile isBlank url.authority } else url

theorem trimmed_of_resource (present : url.resource ≠ []) : url.trimmed = url :=
  if_neg present

theorem trimmed_of_no_resource (none : url.resource = []) :
    url.trimmed = { url with authority := dropEndWhile isBlank url.authority } :=
  if_pos none

/-- Trimming takes nothing away exactly if the text ends in no blank of the authority. -/
theorem trimmed_eq_self_iff : url.trimmed = url ↔ ¬ url.EndsInBlank := by
  by_cases resource : url.resource = []
  · obtain ⟨path, query, fragment⟩ := resource_eq_nil_iff.mp resource
    have authority : url.trimmed = url ↔ dropEndWhile isBlank url.authority = url.authority := by
      rw [trimmed_of_no_resource resource]
      constructor
      · intro same
        exact congrArg Components.authority same
      · intro same
        rw [same]
    rw [authority, dropEndWhile_eq_self_iff]
    constructor
    · rintro stays ⟨_, _, _, c, last, blank⟩
      rw [stays c last] at blank
      cases blank
    · intro ends c last
      apply Bool.eq_false_iff.mpr
      intro blank
      exact ends ⟨path, query, fragment, c, last, blank⟩
  · rw [trimmed_of_resource resource]
    constructor
    · rintro _ ⟨path, query, fragment, _⟩
      exact resource (resource_eq_nil_iff.mpr ⟨path, query, fragment⟩)
    · intro _
      rfl

theorem IsSeparable.trimmed (separable : url.IsSeparable) : url.trimmed.IsSeparable := by
  by_cases resource : url.resource = []
  · rw [trimmed_of_no_resource resource]
    have part := (isPrefix_dropEndWhile isBlank url.authority).subset
    refine
      { separable with
        authority := fun c among => separable.authority c (part among)
        significant := fun c among => separable.significant c ?_ }
    simp only [List.mem_append] at among ⊢
    exact among.imp_left (Or.imp_left (Or.imp_left fun among => part among))
  · rwa [trimmed_of_resource resource]

/-- Trimming leaves path and query alone. -/
theorem reescape_trimmed (stable : url.reescape = url) : url.trimmed.reescape = url.trimmed := by
  have path : escapePath url.path = url.path := congrArg Components.path stable
  have query : reescapeQuery url.query = url.query := congrArg Components.query stable
  by_cases resource : url.resource = []
  · simp only [trimmed_of_no_resource resource, reescape, path, query]
  · rw [trimmed_of_resource resource, stable]

/-- Stripping the text of a URL is trimming its components, if its resource ends in no
blank. -/
theorem IsSeparable.strip_written (separable : url.IsSeparable)
    (ends : ∀ c ∈ url.resource.getLast?, isBlank c = false) :
    strip url.written = url.trimmed.written := by
  have head : ∀ c ∈ url.written.head?, isBlank c = false := by
    obtain ⟨first, rest, spelled, letter, _⟩ := separable.scheme
    intro c opens
    rw [written, spelled] at opens
    obtain rfl : first = c := by simpa using opens
    exact Text.forall_ascii (p := fun c => c.isAlpha = true → isBlank c = false)
      (by decide +kernel) (toNat_lt_of_isAlphanum (isAlphanum_of_isAlpha letter)) letter
  rw [strip_of_head head]
  by_cases resource : url.resource = []
  · have front : url.written = (url.scheme ++ [':', '/', '/']) ++ url.authority := by
      simp [written, resource]
    have last : ∀ c ∈ (url.scheme ++ [':', '/', '/']).getLast?, isBlank c = false := by
      intro c last
      obtain rfl : '/' = c := by simpa using last
      decide
    have bare : ({ url with
        authority := dropEndWhile isBlank url.authority } : Components).resource = [] := resource
    rw [front, dropEndWhile_append last, trimmed_of_no_resource resource, written, bare]
    simp
  · rw [trimmed_of_resource resource, dropEndWhile_eq_self_iff]
    intro c last
    apply ends
    rwa [written_eq, List.getLast?_append_of_ne_nil _ resource] at last

/-- A resource ends in no blank if its path and its query hold none and its fragment ends
in none. -/
theorem getLast?_resource (path : ∀ c ∈ url.path, isBlank c = false)
    (query : ∀ c ∈ url.query, isBlank c = false)
    (fragment : ∀ c ∈ url.fragment.getLast?, isBlank c = false) :
    ∀ c ∈ url.resource.getLast?, isBlank c = false := by
  intro c last
  rw [resource, List.getLast?_append, List.getLast?_append] at last
  rcases Option.or_eq_some_iff.mp last with last | ⟨_, last⟩
  · exact fragment c (getLast?_delimited c last)
  · rcases Option.or_eq_some_iff.mp last with last | ⟨_, last⟩
    · exact query c (List.mem_of_mem_getLast? (getLast?_delimited c last))
    · exact path c (List.mem_of_mem_getLast? last)

/-- Escaping anew leaves no blanks in path and query, and a stripped text has none at the
end of its fragment. -/
theorem getLast?_resource_reescape {s : List Char} {parts : Components}
    (splits : split (strip s) = .ok parts) :
    ∀ c ∈ parts.reescape.resource.getLast?, isBlank c = false := by
  have visible : ∀ c, keepsInPath c = true → isBlank c = false := by
    intro c kept
    exact of_keepsInPath (p := (isBlank · = false)) (by decide +kernel) kept
  apply getLast?_resource
  · exact fun c among => visible c (keepsInPath_of_mem_escapePath among)
  · exact fun c among => visible c (keepsInPath_of_mem_reescapeQuery among)
  · obtain ⟨rfl, _⟩ := split_eq_ok_iff.mp splits
    exact getLast?_fragment (getLast?_strip s)

/-- Escaping anew empties no component and changes no authority. -/
theorem endsInBlank_reescape : url.reescape.EndsInBlank ↔ url.EndsInBlank := by
  constructor
  · rintro ⟨path, query, fragment, blank⟩
    exact ⟨Percent.encode_eq_nil_iff.mp path, reescapeQuery_eq_nil_iff.mp query, fragment, blank⟩
  · rintro ⟨path, query, fragment, blank⟩
    exact ⟨Percent.encode_eq_nil_iff.mpr path, reescapeQuery_eq_nil_iff.mpr query, fragment, blank⟩

/-- Different components are written differently. -/
theorem IsSeparable.written_injective {other : Components} (separable : url.IsSeparable)
    (others : other.IsSeparable) (same : url.written = other.written) : url = other := by
  rw [← separable.cut_written, same, others.cut_written]

end Components

/-! ## A second run -/

/-- What stripping leaves of an address decides what becomes of it, if nothing is left to
escape. -/
theorem normalize_eq_ok_iff_of_written {parts : Components} {url : String}
    (separable : parts.IsSeparable) (stable : parts.reescape = parts)
    (stripped : strip url.toList = parts.written) (again : String) :
    normalize url = .ok again ↔
      (split parts.written = .ok parts ∧ ∃ port, parts.port = .ok port) ∧
        parts.authority ≠ [] ∧ again.toList = parts.written := by
  have scheme := separable.scheme.ne_nil
  rw [normalize_eq_ok_iff, stripped]
  constructor
  · rintro ⟨found, ⟨splits, valid⟩, ⟨_, authority⟩, joined⟩
    obtain rfl : parts = found := by
      rw [← separable.cut_written]
      exact (split_eq_ok_iff.mp splits).1
    rw [stable, Components.join_eq scheme authority separable.rooted] at joined
    exact ⟨⟨splits, valid⟩, authority, joined.symm⟩
  · rintro ⟨checks, authority, same⟩
    refine ⟨parts, checks, ⟨scheme, authority⟩, ?_⟩
    rw [stable, Components.join_eq scheme authority separable.rooted, same]

/-- The normal form of an address is its own normal form if and only if the address names
more than its authority, or its authority ends in no blank. What a second run gives is in
every case the stripped normal form, and a third run leaves it alone. -/
theorem normalize_fixed_iff {raw url : String} (accepted : normalize raw = .ok url) :
    ∃ parts, split (strip raw.toList) = .ok parts ∧
      (normalize url = .ok url ↔ ¬ parts.EndsInBlank) ∧
      ∀ again, normalize url = .ok again →
        again.toList = strip url.toList ∧ normalize again = .ok again := by
  obtain ⟨parts, port, splits, valid, _, authority, separable, written, rereads⟩ :=
    exists_parts accepted
  have normal := separable.reescape
  have stripped : strip url.toList = parts.reescape.trimmed.written := by
    rw [← written]
    exact normal.strip_written (Components.getLast?_resource_reescape splits)
  have stable := Components.reescape_trimmed (Components.reescape_reescape parts)
  have second := normalize_eq_ok_iff_of_written normal.trimmed stable stripped
  refine ⟨parts, splits, ?_, ?_⟩
  · rw [← Components.endsInBlank_reescape, ← Components.trimmed_eq_self_iff]
    constructor
    · intro fixed
      obtain ⟨_, _, same⟩ := (second url).mp fixed
      exact normal.trimmed.written_injective normal (same.symm.trans written.symm)
    · intro same
      apply (second url).mpr
      rw [same, written]
      exact ⟨⟨rereads, port, valid⟩, authority, rfl⟩
  · intro again accepted
    obtain ⟨checks, present, same⟩ := (second again).mp accepted
    refine ⟨same.trans stripped.symm, ?_⟩
    have settled : strip again.toList = parts.reescape.trimmed.written := by
      rw [same, ← stripped, strip_strip]
    exact (normalize_eq_ok_iff_of_written normal.trimmed stable settled again).mpr
      ⟨checks, present, same⟩

/-- A signed address with blanks around it, a blank in its authority and a blank in its
fragment, normalized twice. -/
theorem normalize_fixed_iff_of_signed :
    normalize "\t S3://my store/a b?sig=%2f é#to p\u00a0" =
        .ok "s3://my store/a%20b?sig%3D%2F%20%C3%A9#to p" ∧
      normalize "s3://my store/a%20b?sig%3D%2F%20%C3%A9#to p" =
        .ok "s3://my store/a%20b?sig%3D%2F%20%C3%A9#to p" := by
  have accepted : normalize "\t S3://my store/a b?sig=%2f é#to p\u00a0" =
      .ok "s3://my store/a%20b?sig%3D%2F%20%C3%A9#to p" :=
    rfl
  refine ⟨accepted, ?_⟩
  obtain ⟨parts, splits, fixed, _⟩ := normalize_fixed_iff accepted
  apply fixed.mpr
  rintro ⟨path, _⟩
  have cuts : split (strip "\t S3://my store/a b?sig=%2f é#to p\u00a0".toList) =
      .ok ⟨"s3".toList, "my store".toList, "/a b".toList, "sig=%2f é".toList, "to p".toList⟩ :=
    rfl
  rw [Except.ok.inj (splits.symm.trans cuts)] at path
  cases path

/-- The blank that ends this authority stands in front of the delimiter of an empty query.
The normal form has no such delimiter, so a second run takes the blank away. -/
theorem normalize_drops_blank_of_authority :
    normalize "http://h ?" = .ok "http://h " ∧ normalize "http://h " = .ok "http://h" ∧
      normalize "http://h " ≠ .ok "http://h " := by
  have second : normalize "http://h " = .ok "http://h" := rfl
  refine ⟨rfl, second, ?_⟩
  intro fixed
  exact absurd (Except.ok.inj (second.symm.trans fixed)) (by decide)

end ArtifactAudit.Url
