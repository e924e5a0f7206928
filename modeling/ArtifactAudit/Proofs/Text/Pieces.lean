import ArtifactAudit.Text.Cut

/-!
# Pieces of a text

Joining with a separator undoes cutting at it (`joinPieces_pieces`), and cutting undoes
joining if no piece holds the separator (`pieces_joinPieces`).
-/

set_option autoImplicit false

namespace ArtifactAudit.Text

variable {separator : Char}

theorem pieces_separator (s : List Char) :
    pieces separator (separator :: s) = [] :: pieces separator s := by
  simp [pieces]

/-- A character that is no separator belongs to the first piece. -/
theorem pieces_cons {c : Char} (other : c ≠ separator) {s first : List Char}
    {rest : List (List Char)} (cut : pieces separator s = first :: rest) :
    pieces separator (c :: s) = (c :: first) :: rest := by
  unfold pieces at cut ⊢
  rw [List.foldr_cons, cut, if_neg other]

theorem pieces_ne_nil (s : List Char) : pieces separator s ≠ [] := by
  cases s with
  | nil => simp [pieces]
  | cons c s =>
    by_cases same : c = separator
    · subst same
      simp [pieces_separator]
    · cases cut : pieces separator s with
      | nil => exact absurd cut (pieces_ne_nil s)
      | cons first rest => simp [pieces_cons same cut]

/-- No piece holds the separator. -/
theorem separator_not_mem_of_mem_pieces {s piece : List Char}
    (among : piece ∈ pieces separator s) : separator ∉ piece := by
  induction s generalizing piece with
  | nil =>
    obtain rfl : piece = [] := by simpa [pieces] using among
    exact List.not_mem_nil
  | cons c s ih =>
    by_cases same : c = separator
    · subst same
      rw [pieces_separator] at among
      rcases List.mem_cons.mp among with rfl | among
      · exact List.not_mem_nil
      · exact ih among
    · cases cut : pieces separator s with
      | nil => exact absurd cut (pieces_ne_nil s)
      | cons first rest =>
        rw [pieces_cons same cut] at among
        rcases List.mem_cons.mp among with rfl | among
        · have free : separator ∉ first := ih (by simp [cut])
          simp [Ne.symm same, free]
        · exact ih (by simp [cut, among])

/-- A text without the separator is a single piece. -/
theorem pieces_eq_singleton {s : List Char} (free : separator ∉ s) : pieces separator s = [s] := by
  induction s with
  | nil => rfl
  | cons c s ih =>
    exact pieces_cons (Ne.symm (List.ne_of_not_mem_cons free))
      (ih (List.not_mem_of_not_mem_cons free))

/-- A separator cuts a text, whatever stands in front. -/
theorem pieces_append_separator (s rest : List Char) :
    pieces separator (s ++ separator :: rest) = pieces separator s ++ pieces separator rest := by
  induction s with
  | nil => exact pieces_separator rest
  | cons c s ih =>
    rw [List.cons_append]
    by_cases same : c = separator
    · subst same
      rw [pieces_separator, pieces_separator, ih]
      rfl
    · cases cut : pieces separator s with
      | nil => exact absurd cut (pieces_ne_nil s)
      | cons first others =>
        rw [cut] at ih
        rw [pieces_cons same ih, pieces_cons same cut]
        rfl

/-- What stands before the first separator is the first piece. -/
theorem pieces_append {s : List Char} (free : separator ∉ s) (rest : List Char) :
    pieces separator (s ++ separator :: rest) = s :: pieces separator rest := by
  rw [pieces_append_separator, pieces_eq_singleton free]
  rfl

/-- Characters in front that are no separators belong to the first piece. -/
theorem pieces_prepend {front : List Char} (free : separator ∉ front) {s first : List Char}
    {rest : List (List Char)} (cut : pieces separator s = first :: rest) :
    pieces separator (front ++ s) = (front ++ first) :: rest := by
  induction front with
  | nil => exact cut
  | cons c front ih =>
    exact pieces_cons (Ne.symm (List.ne_of_not_mem_cons free))
      (ih (List.not_mem_of_not_mem_cons free))

/-- Cutting undoes joining. -/
theorem pieces_joinPieces {texts : List (List Char)} (nonempty : texts ≠ [])
    (free : ∀ text ∈ texts, separator ∉ text) :
    pieces separator (joinPieces separator texts) = texts := by
  cases texts with
  | nil => exact absurd rfl nonempty
  | cons first others =>
    induction others generalizing first with
    | nil =>
      rw [joinPieces, List.flatMap_nil, List.append_nil]
      exact pieces_eq_singleton (free first (by simp))
    | cons next others ih =>
      have joined : joinPieces separator (first :: next :: others) =
          first ++ separator :: joinPieces separator (next :: others) := by
        simp [joinPieces]
      rw [joined, pieces_append (free first (by simp)),
        ih next (by simp) fun text among => free text (List.mem_cons_of_mem _ among)]

/-- Joining undoes cutting. -/
theorem joinPieces_pieces (separator : Char) (s : List Char) :
    joinPieces separator (pieces separator s) = s := by
  induction s with
  | nil => rfl
  | cons c s ih =>
    by_cases same : c = separator
    · subst same
      rw [pieces_separator]
      cases cut : pieces c s with
      | nil => exact absurd cut (pieces_ne_nil s)
      | cons first rest =>
        rw [cut] at ih
        simpa [joinPieces] using ih
    · cases cut : pieces separator s with
      | nil => exact absurd cut (pieces_ne_nil s)
      | cons first rest =>
        rw [cut] at ih
        rw [pieces_cons same cut]
        simpa [joinPieces] using ih

theorem infix_joinPieces {texts : List (List Char)} {text : List Char} (among : text ∈ texts) :
    text <:+: joinPieces separator texts := by
  cases texts with
  | nil => cases among
  | cons first others =>
    rcases List.mem_cons.mp among with rfl | among
    · exact ⟨[], _, rfl⟩
    · obtain ⟨before, after, rfl⟩ := List.append_of_mem among
      refine ⟨first ++ before.flatMap (separator :: ·) ++ [separator],
        after.flatMap (separator :: ·), ?_⟩
      simp [joinPieces, List.append_assoc]

/-- A piece is a part of the text. -/
theorem infix_of_mem_pieces {s piece : List Char} (among : piece ∈ pieces separator s) :
    piece <:+: s := by
  have part : piece <:+: joinPieces separator (pieces separator s) := infix_joinPieces among
  rwa [joinPieces_pieces] at part

/-- A text is joined from the characters of its parts and separators. -/
theorem mem_joinPieces {texts : List (List Char)} {c : Char}
    (among : c ∈ joinPieces separator texts) : c = separator ∨ ∃ text ∈ texts, c ∈ text := by
  cases texts with
  | nil => cases among
  | cons first others =>
    rcases List.mem_append.mp among with among | among
    · exact .inr ⟨first, List.mem_cons_self, among⟩
    · obtain ⟨text, member, among⟩ := List.mem_flatMap.mp among
      rcases List.mem_cons.mp among with same | among
      · exact .inl same
      · exact .inr ⟨text, List.mem_cons_of_mem first member, among⟩

/-! ## Before and after the first separator -/

theorem bne_of_not_mem {s : List Char} (free : separator ∉ s) :
    ∀ c ∈ s, (c != separator) = true := by
  intro c among
  rw [bne_iff_ne]
  rintro rfl
  exact free among

/-- A character that is no separator stands before the first one. -/
theorem before_cons {c : Char} (other : c ≠ separator) (s : List Char) :
    before separator (c :: s) = c :: before separator s :=
  List.takeWhile_cons_of_pos (bne_iff_ne.mpr other)

theorem before_prepend {front : List Char} (free : separator ∉ front) (s : List Char) :
    before separator (front ++ s) = front ++ before separator s :=
  List.takeWhile_append_of_pos (bne_of_not_mem free)

theorem after?_prepend {front : List Char} (free : separator ∉ front) (s : List Char) :
    after? separator (front ++ s) = after? separator s := by
  rw [after?, List.dropWhile_append_of_pos (bne_of_not_mem free), after?]

theorem before_append {s : List Char} (free : separator ∉ s) (rest : List Char) :
    before separator (s ++ separator :: rest) = s := by
  rw [before_prepend free]
  simp [before]

theorem after?_append {s : List Char} (free : separator ∉ s) (rest : List Char) :
    after? separator (s ++ separator :: rest) = some rest := by
  rw [after?_prepend free]
  simp [after?]

theorem before_of_not_mem {s : List Char} (free : separator ∉ s) : before separator s = s := by
  have whole : before separator (s ++ []) = s ++ [] := before_prepend free []
  rwa [List.append_nil] at whole

theorem after?_of_not_mem {s : List Char} (free : separator ∉ s) : after? separator s = none := by
  have whole := after?_prepend free []
  rwa [List.append_nil] at whole

/-- If nothing stands after a separator, there is none. -/
theorem not_mem_of_after?_eq_none {s : List Char} (none : after? separator s = none) :
    separator ∉ s := by
  intro among
  obtain ⟨front, rest, rfl, free⟩ := List.eq_append_cons_of_mem among
  rw [after?_append free] at none
  cases none

theorem isPrefix_before (separator : Char) (s : List Char) : before separator s <+: s :=
  List.takeWhile_prefix _

theorem isSuffix_after (separator : Char) (s : List Char) : after separator s <:+ s := by
  cases ends : s.dropWhile (· != separator) with
  | nil =>
    rw [after, after?, ends]
    exact List.nil_suffix
  | cons c rest =>
    have suffix : c :: rest <:+ s := ends ▸ List.dropWhile_suffix _
    rw [after, after?, ends]
    exact (List.suffix_cons c rest).trans suffix

/-- The first separator does not stand before itself. -/
theorem separator_not_mem_before (separator : Char) (s : List Char) :
    separator ∉ before separator s := by
  intro among
  have other := List.all_eq_true.mp (List.all_takeWhile (l := s)) separator among
  simp at other

/-- A text that stands before the first separator as a whole does not hold it. -/
theorem not_mem_of_before_eq {s : List Char} (whole : before separator s = s) :
    separator ∉ s := by
  intro among
  obtain ⟨front, rest, rfl, free⟩ := List.eq_append_cons_of_mem among
  rw [before_append free] at whole
  simp at whole

end ArtifactAudit.Text
