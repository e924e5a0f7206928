import ArtifactAudit.Proofs.Encoding.Percent
import ArtifactAudit.Proofs.Text.Pieces
import ArtifactAudit.Url.Location

/-!
# The segments of a path

Resolving a path removes its dot segments, and nothing that stands in front of the
first of them is touched but from its end (`resolveSegments_ends`). So what is appended
to a base either ends in a segment of its own or leads back into the base. Escaping
works on every segment alone (`pieces_encode`) and makes no dot segments.
-/

set_option autoImplicit false

namespace ArtifactAudit.Url

open Text

/-! ## Dot segments -/

/-- Whether a segment is `.` or `..`. -/
def isDotSegment (segment : List Char) : Bool :=
  segment == ['.'] || segment == ['.', '.']

theorem resolveSegments_plain {segment : List Char} (plain : isDotSegment segment = false)
    (kept rest : List (List Char)) :
    resolveSegments kept (segment :: rest) = resolveSegments (segment :: kept) rest := by
  simp only [isDotSegment, Bool.or_eq_false_iff, beq_eq_false_iff_ne] at plain
  rw [resolveSegments, if_neg plain.1, if_neg plain.2]

/-- Segments that are no dot segments are kept, whatever follows them. -/
theorem resolveSegments_append {front : List (List Char)}
    (plain : ∀ segment ∈ front, isDotSegment segment = false) (kept rest : List (List Char)) :
    resolveSegments kept (front ++ rest) = resolveSegments (front.reverse ++ kept) rest := by
  induction front generalizing kept with
  | nil => rfl
  | cons segment front ih =>
    rw [List.cons_append, resolveSegments_plain (plain segment (by simp)),
      ih fun other among => plain other (List.mem_cons_of_mem segment among)]
    simp

theorem resolveSegments_of_plain {segments : List (List Char)}
    (plain : ∀ segment ∈ segments, isDotSegment segment = false) :
    resolveSegments [] segments = segments := by
  have kept := resolveSegments_append plain [] []
  rwa [List.append_nil, List.append_nil, resolveSegments, List.reverse_reverse] at kept

/-- A last segment that is no dot segment stays the last one. -/
theorem resolveSegments_concat {last : List Char} (plain : isDotSegment last = false)
    (kept segments : List (List Char)) :
    resolveSegments kept (segments ++ [last]) = resolveSegments kept segments ++ [last] := by
  induction segments generalizing kept with
  | nil =>
    rw [List.nil_append, resolveSegments_plain plain, resolveSegments, resolveSegments,
      List.reverse_cons]
  | cons segment segments ih =>
    rw [List.cons_append, resolveSegments, resolveSegments]
    split
    · exact ih kept
    split
    · exact ih _
    · exact ih _

/-- What a path is resolved to was kept before or is no dot segment. -/
theorem mem_resolveSegments {kept rest : List (List Char)} {segment : List Char}
    (among : segment ∈ resolveSegments kept rest) :
    segment ∈ kept ∨ segment ∈ rest ∧ isDotSegment segment = false := by
  induction rest generalizing kept with
  | nil => exact .inl (List.mem_reverse.mp among)
  | cons next rest ih =>
    rw [resolveSegments] at among
    split at among
    · rcases ih among with old | ⟨new, plain⟩
      · exact .inl old
      · exact .inr ⟨List.mem_cons_of_mem next new, plain⟩
    split at among
    · rcases ih among with old | ⟨new, plain⟩
      · split at old
        · exact .inl old
        · exact .inl (List.mem_of_mem_drop old)
      · exact .inr ⟨List.mem_cons_of_mem next new, plain⟩
    · rename_i single double
      rcases ih among with old | ⟨new, plain⟩
      · rcases List.mem_cons.mp old with rfl | old
        · exact .inr ⟨List.mem_cons_self, by simp [isDotSegment, single, double]⟩
        · exact .inl old
      · exact .inr ⟨List.mem_cons_of_mem next new, plain⟩

/-- A resolved path ends in one of the segments that were resolved, or it leads back to
the segments kept before. -/
theorem resolveSegments_ends (kept rest : List (List Char)) :
    resolveSegments kept rest <+: kept.reverse ∨
      ∃ front last, resolveSegments kept rest = front ++ [last] ∧ last ∈ rest := by
  induction rest generalizing kept with
  | nil => exact .inl (List.prefix_refl _)
  | cons next rest ih =>
    rw [resolveSegments]
    split
    · rcases ih kept with back | ⟨front, last, same, among⟩
      · exact .inl back
      · exact .inr ⟨front, last, same, List.mem_cons_of_mem next among⟩
    split
    · rcases ih (if kept = [[]] then kept else kept.drop 1) with back | ⟨front, last, same, among⟩
      · refine .inl (back.trans ?_)
        split
        · exact List.prefix_refl _
        · exact List.reverse_prefix.mpr (List.drop_suffix 1 kept)
      · exact .inr ⟨front, last, same, List.mem_cons_of_mem next among⟩
    · rcases ih (next :: kept) with back | ⟨front, last, same, among⟩
      · rw [List.reverse_cons] at back
        rcases List.prefix_concat_iff.mp back with whole | back
        · exact .inr ⟨kept.reverse, next, whole, List.mem_cons_self⟩
        · exact .inl back
      · exact .inr ⟨front, last, same, List.mem_cons_of_mem next among⟩

/-! ## Paths -/

theorem resolvePath_eq (path : List Char) :
    resolvePath path = joinPieces '/' (resolveSegments [] (pieces '/' path)) := by
  unfold resolvePath
  simp only
  split
  · rfl
  · rename_i plain
    have none : ∀ segment ∈ pieces '/' path, isDotSegment segment = false := by
      intro segment among
      refine Bool.eq_false_iff.mpr fun dot => plain ?_
      simp only [isDotSegment, Bool.or_eq_true, beq_iff_eq] at dot
      rcases dot with rfl | rfl <;> simp [among]
    rw [resolveSegments_of_plain none, joinPieces_pieces]

/-- The segments of a resolved path, unless nothing is left of it. -/
theorem pieces_resolvePath (path : List Char) :
    pieces '/' (resolvePath path) = resolveSegments [] (pieces '/' path) ∨
      pieces '/' (resolvePath path) = [[]] := by
  rw [resolvePath_eq]
  by_cases empty : resolveSegments [] (pieces '/' path) = []
  · rw [empty]
    exact .inr rfl
  · refine .inl (pieces_joinPieces empty fun segment among => ?_)
    rcases mem_resolveSegments among with old | ⟨new, _⟩
    · cases old
    · exact separator_not_mem_of_mem_pieces new

/-- A resolved path has no dot segments. -/
theorem isDotSegment_of_mem_pieces {path segment : List Char}
    (among : segment ∈ pieces '/' (resolvePath path)) : isDotSegment segment = false := by
  rcases pieces_resolvePath path with cut | cut
  · rw [cut] at among
    rcases mem_resolveSegments among with old | ⟨_, plain⟩
    · cases old
    · exact plain
  · rw [cut] at among
    obtain rfl := List.mem_singleton.mp among
    rfl

/-- Resolving once is enough. -/
theorem resolvePath_resolvePath (path : List Char) :
    resolvePath (resolvePath path) = resolvePath path := by
  rw [resolvePath_eq (resolvePath path),
    resolveSegments_of_plain fun _ among => isDotSegment_of_mem_pieces among, joinPieces_pieces]

/-- A resolved path still ends in a slash, unless nothing is left of it. -/
theorem resolvePath_append_slash (path : List Char) :
    resolvePath (path ++ ['/']) = [] ∨ ∃ front, resolvePath (path ++ ['/']) = front ++ ['/'] := by
  have cut : pieces '/' (path ++ ['/']) = pieces '/' path ++ [[]] :=
    pieces_append_separator path []
  rw [resolvePath_eq, cut, resolveSegments_concat (by decide)]
  cases resolveSegments [] (pieces '/' path) with
  | nil => exact .inl rfl
  | cons first others =>
    refine .inr ⟨joinPieces '/' (first :: others), ?_⟩
    simp [joinPieces]

/-- Under segments that are no dot segments a path stays there or leads back. -/
theorem mem_pieces_of_resolvePath {front rest segment : List Char}
    (plain : ∀ other ∈ pieces '/' front, isDotSegment other = false) (single : '/' ∉ segment)
    (resolves : resolvePath (front ++ '/' :: rest) = front ++ '/' :: segment) :
    segment ∈ pieces '/' rest ∧ isDotSegment segment = false := by
  have cut : pieces '/' (resolvePath (front ++ '/' :: rest)) = pieces '/' front ++ [segment] := by
    rw [resolves, pieces_append_separator, pieces_eq_singleton single]
  have plainly : isDotSegment segment = false :=
    isDotSegment_of_mem_pieces (by rw [cut]; simp)
  refine ⟨?_, plainly⟩
  have some : 0 < (pieces '/' front).length := List.length_pos_iff.mpr (pieces_ne_nil front)
  rcases pieces_resolvePath (front ++ '/' :: rest) with same | same
  · rw [pieces_append_separator, resolveSegments_append plain, cut, List.append_nil] at same
    rcases resolveSegments_ends (pieces '/' front).reverse (pieces '/' rest) with
      back | ⟨_, last, ends, among⟩
    · have shorter := back.length_le
      rw [← same, List.length_append, List.reverse_reverse, List.length_singleton] at shorter
      omega
    · rw [ends] at same
      obtain rfl := List.singleton_inj.mp (List.append_inj_right' same rfl)
      exact among
  · have two := congrArg List.length (cut.symm.trans same)
    rw [List.length_append, List.length_singleton, List.length_singleton] at two
    omega

/-- A segment that is no dot segment stays under the segments in front. -/
theorem resolvePath_of_plain {front segment : List Char}
    (plain : ∀ other ∈ pieces '/' front, isDotSegment other = false) (single : '/' ∉ segment)
    (plainly : isDotSegment segment = false) :
    resolvePath (front ++ '/' :: segment) = front ++ '/' :: segment := by
  have cut : pieces '/' (front ++ '/' :: segment) = pieces '/' front ++ [segment] := by
    rw [pieces_append_separator, pieces_eq_singleton single]
  rw [resolvePath_eq, resolveSegments_of_plain, joinPieces_pieces]
  intro other among
  rw [cut] at among
  rcases List.mem_append.mp among with among | among
  · exact plain other among
  · obtain rfl := List.mem_singleton.mp among
    exact plainly

/-- Resolving brings no new characters but slashes. -/
theorem mem_of_mem_resolvePath {path : List Char} {c : Char} (among : c ∈ resolvePath path) :
    c = '/' ∨ c ∈ path := by
  rw [resolvePath_eq] at among
  rcases mem_joinPieces among with same | ⟨segment, member, among⟩
  · exact .inl same
  · rcases mem_resolveSegments member with old | ⟨new, _⟩
    · cases old
    · exact .inr ((infix_of_mem_pieces new).subset among)

/-! ## Escaped segments -/

variable {keep : Char → Bool}

/-- Only a slash is written with a slash. -/
theorem slash_not_mem_encodeChar {c : Char} (other : c ≠ '/') :
    '/' ∉ Percent.encodeChar keep c := by
  intro among
  rcases Percent.mem_encodeChar among with ⟨same, _⟩ | impossible | impossible
  · exact other same.symm
  · exact absurd impossible (by decide)
  · exact absurd impossible (by decide)

theorem slash_not_mem_encode {s : List Char} (free : '/' ∉ s) : '/' ∉ Percent.encode keep s := by
  intro among
  obtain ⟨c, member, part⟩ := List.mem_flatMap.mp among
  exact slash_not_mem_encodeChar (fun same => free (same ▸ member)) part

/-- Escaping works on every segment alone. -/
theorem pieces_encode (kept : keep '/' = true) (s : List Char) :
    pieces '/' (Percent.encode keep s) = (pieces '/' s).map (Percent.encode keep) := by
  induction s with
  | nil => rfl
  | cons c s ih =>
    rw [Percent.encode_cons]
    by_cases slash : c = '/'
    · subst slash
      rw [Percent.encodeChar_kept kept, List.singleton_append, pieces_separator, pieces_separator,
        ih]
      rfl
    · cases cut : pieces '/' s with
      | nil => exact absurd cut (pieces_ne_nil s)
      | cons first rest =>
        rw [cut] at ih
        rw [pieces_cons slash cut, pieces_prepend (slash_not_mem_encodeChar slash) ih]
        rfl

/-- Escaping makes no dot segments and leaves none out. -/
theorem isDotSegment_encode (kept : keep '.' = true) (s : List Char) :
    isDotSegment (Percent.encode keep s) = isDotSegment s := by
  have spelled : ∀ segment, isDotSegment segment = true → ∀ c ∈ segment, c = '.' := by
    intro segment dot
    simp only [isDotSegment, Bool.or_eq_true, beq_iff_eq] at dot
    rcases dot with rfl | rfl <;> simp
  rw [Bool.eq_iff_iff]
  constructor
  · intro dot
    have same : Percent.encode keep s = s := Percent.encode_eq_self fun sign =>
      absurd (spelled _ dot _ sign) (by decide)
    rwa [same] at dot
  · intro dot
    rwa [Percent.encode_of_kept fun c among => by rwa [spelled _ dot c among]]

end ArtifactAudit.Url
