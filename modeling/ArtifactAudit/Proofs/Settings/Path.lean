import ArtifactAudit.Path
import ArtifactAudit.Proofs.Text.Pieces

/-!
# Paths in normal form

The path that a text denotes is in normal form (`isNormal_ofText`), and a path in
normal form is read back from its text (`ofText_text`). So the text of a path denotes
the same path (`ofText_text_ofText`).
-/

set_option autoImplicit false

namespace ArtifactAudit.Path

/-- A path is in normal form if it has at most two slashes in front, and every component
is a name that is neither empty nor a single dot. -/
structure IsNormal (path : Path) : Prop where
  root : path.root = [] ∨ path.root = ['/'] ∨ path.root = ['/', '/']
  nonempty : ∀ component ∈ path.components, component ≠ []
  undotted : ∀ component ∈ path.components, component ≠ ['.']
  free : ∀ component ∈ path.components, '/' ∉ component

theorem isNormal_ofText (s : String) : (ofText s).IsNormal where
  root := by
    simp only [ofText]
    split
    · exact .inl rfl
    · split
      · exact .inr (.inr rfl)
      · exact .inr (.inl rfl)
  nonempty component among := by
    have kept := (List.mem_filter.mp among).2
    simp only [Bool.and_eq_true, Bool.not_eq_true', List.isEmpty_eq_false_iff] at kept
    exact kept.1
  undotted component among := by
    have kept := (List.mem_filter.mp among).2
    simp only [Bool.and_eq_true, bne_iff_ne] at kept
    exact kept.2
  free component among :=
    Text.separator_not_mem_of_mem_pieces (List.mem_filter.mp among).1

namespace IsNormal

variable {path : Path}

/-- The components are read back from their text, whatever slashes stand in front. -/
theorem components_join (normal : path.IsNormal) :
    (Text.pieces '/' (path.root ++ Text.joinPieces '/' path.components)).filter
      (fun component => !component.isEmpty && component != ['.']) = path.components := by
  have joined : (Text.pieces '/' (Text.joinPieces '/' path.components)).filter
      (fun component => !component.isEmpty && component != ['.']) = path.components := by
    by_cases none : path.components = []
    · rw [none]
      rfl
    · rw [Text.pieces_joinPieces none normal.free, List.filter_eq_self]
      intro component among
      simp [normal.nonempty component among, normal.undotted component among]
  rcases normal.root with root | root | root <;> rw [root]
  · exact joined
  · simpa [Text.pieces_separator] using joined
  · simpa [Text.pieces_separator] using joined

/-- The joined components do not begin with a slash. -/
theorem takeWhile_join (normal : path.IsNormal) :
    (Text.joinPieces '/' path.components).takeWhile (· == '/') = [] := by
  cases names : path.components with
  | nil => rfl
  | cons first others =>
    have among : first ∈ path.components := by simp [names]
    cases spelled : first with
    | nil => exact absurd spelled (normal.nonempty first among)
    | cons c rest =>
      have other : c ≠ '/' := fun slash => normal.free first among (by simp [spelled, slash])
      simp [Text.joinPieces, other]

/-- The slashes in front are read back. -/
theorem takeWhile_text (normal : path.IsNormal) :
    (path.root ++ Text.joinPieces '/' path.components).takeWhile (· == '/') = path.root := by
  have slashes : ∀ c ∈ path.root, (c == '/') = true := by
    rcases normal.root with root | root | root <;> simp [root]
  rw [List.takeWhile_append_of_pos slashes, normal.takeWhile_join, List.append_nil]

/-- A path in normal form is read back from its text. -/
theorem ofText_text (normal : path.IsNormal) : ofText path.text = path := by
  obtain ⟨root, components⟩ := path
  unfold text
  split
  · rename_i bare none
    obtain rfl : root = [] := bare
    obtain rfl : components = [] := none
    decide
  · have slashes := normal.takeWhile_text
    have names := normal.components_join
    simp only at slashes names
    simp only [ofText, String.toList_ofList, slashes, names, Path.mk.injEq, and_true]
    rcases normal.root with same | same | same <;> simp only at same <;> subst same <;> rfl

end IsNormal

/-- The text of the path that a text denotes denotes that path. -/
theorem ofText_text_ofText (s : String) : ofText (ofText s).text = ofText s :=
  (isNormal_ofText s).ofText_text

end ArtifactAudit.Path
