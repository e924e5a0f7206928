import Mathlib.Data.List.TakeWhile
import ArtifactAudit.Proofs.Markup.Tags

/-!
# Escaping takes every tag its meaning

Escaping only puts backslashes in, so an escaped text says what the text says but for
backslashes (`escape_differs`), and it has no active tag (`escape_isInert`): it quotes the text
(`quotes_escape`).

The latter is about all places of the text at once: a backslash that is put in must neither
give back the meaning of a bracket behind it nor close a tag that was open. What the scan of an
escaped text has seen so far matters in one case alone: when a run of backslashes with a tag
behind it is under way, an even number of backslashes must stand before what is left.
-/

set_option autoImplicit false

namespace ArtifactAudit.Markup

/-! ## What is put in -/

section

variable {c : Char} {s rest added : List Char}

/-- A character is escaped by a backslash in front of it, or left as it is. -/
theorem escapeTags_cons (c : Char) (rest : List Char) :
    escapeTags (c :: rest) =
      if c = '\\' ∧ startsTag (rest.dropWhile (· == '\\')) ∨ startsTag (c :: rest) then
        '\\' :: c :: escapeTags rest
      else c :: escapeTags rest := by
  rw [escapeTags]
  split <;> rename_i first
  · rw [if_pos (.inl first)]
  · simp [first]

/-- Only a bracket begins a tag. -/
theorem startsTag_of_ne (other : c ≠ '[') : startsTag (c :: rest) = false := by
  unfold startsTag
  split
  · rename_i same
    exact absurd (List.cons.inj same).1 other
  · rfl

/-- Escaping leaves a character that is neither a backslash nor a bracket as it is. -/
theorem escapeTags_plain (unslashed : c ≠ '\\') (other : c ≠ '[') :
    escapeTags (c :: rest) = c :: escapeTags rest := by
  rw [escapeTags_cons, if_neg (by simp [unslashed, startsTag_of_ne other])]

/-- An escaped text begins with a backslash, or it begins as the text does. -/
theorem escapeTags_cons_eq (c : Char) (rest : List Char) :
    escapeTags (c :: rest) = '\\' :: c :: escapeTags rest ∨
      escapeTags (c :: rest) = c :: escapeTags rest := by
  rw [escapeTags_cons]
  split
  · exact .inl rfl
  · exact .inr rfl

theorem filter_escapeTags (s : List Char) :
    (escapeTags s).filter (· ≠ '\\') = s.filter (· ≠ '\\') := by
  induction s with
  | nil => rfl
  | cons c rest ih =>
    rcases escapeTags_cons_eq c rest with escaped | escaped <;>
      simp only [escaped, List.filter_cons, ih, ne_eq, not_true_eq_false, decide_false,
        Bool.false_eq_true, if_false]

/-- A backslash at the end of a text is doubled by one more, or nothing is added. -/
theorem closeBackslash_eq (s : List Char) :
    ∃ added, (∀ c ∈ added, c = '\\') ∧ closeBackslash s = s ++ added := by
  unfold closeBackslash
  split
  · exact ⟨['\\'], by simp, rfl⟩
  · exact ⟨[], by simp, by simp⟩

/-- An escaped text is the text, but for backslashes. -/
theorem escape_differs (s : String) :
    (escape s).toList.filter (· ≠ '\\') = s.toList.filter (· ≠ '\\') := by
  obtain ⟨added, slashes, closed⟩ := closeBackslash_eq (escapeTags s.toList)
  have nothing : added.filter (· ≠ '\\') = [] :=
    List.filter_eq_nil_iff.mpr fun c among => by simp [slashes c among]
  rw [escape, String.toList_ofList, closed, List.filter_append, nothing, List.append_nil,
    filter_escapeTags]

/-! ## Tags of an escaped text -/

/-- The bracket at which a tag ends, or another begins, stays what it was. -/
theorem escapeTags_head?_dropWhile (slashes : ∀ c ∈ added, c = '\\') (s : List Char) :
    ((escapeTags s ++ added).dropWhile fun c => c != '[' && c != ']').head? =
      (s.dropWhile fun c => c != '[' && c != ']').head? := by
  induction s with
  | nil =>
    have passed : ∀ c ∈ added, (c != '[' && c != ']') = true := by
      intro c among
      rw [slashes c among]
      rfl
    simp [escapeTags, List.dropWhile_eq_nil_iff.mpr passed]
  | cons c rest ih =>
    by_cases bracket : c = '[' ∨ c = ']'
    · rcases escapeTags_cons_eq c rest with escaped | escaped <;>
        rcases bracket with rfl | rfl <;> simp [escaped]
    · obtain ⟨unopened, unclosed⟩ := not_or.mp bracket
      rcases escapeTags_cons_eq c rest with escaped | escaped <;>
        simpa [escaped, unopened, unclosed] using ih

/-- No bracket begins a tag that did not begin one before, and none ceases to. -/
theorem startsTag_escapeTags (slashes : ∀ c ∈ added, c = '\\') (s : List Char) :
    startsTag ('[' :: (escapeTags s ++ added)) = startsTag ('[' :: s) := by
  cases s with
  | nil =>
    cases added with
    | nil => rfl
    | cons c added =>
      obtain rfl := slashes c List.mem_cons_self
      simp [escapeTags, startsTag, not_opensTagName_backslash]
  | cons c rest =>
    by_cases slash : c = '\\'
    · subst slash
      rcases escapeTags_cons_eq '\\' rest with escaped | escaped <;>
        simp [escaped, startsTag, not_opensTagName_backslash]
    · by_cases bracket : c = '['
      · subst bracket
        rcases escapeTags_cons_eq '[' rest with escaped | escaped <;>
          simp [escaped, startsTag, not_opensTagName_backslash, not_opensTagName_bracket]
      · rw [escapeTags_plain slash bracket]
        simp only [List.cons_append, startsTag, escapeTags_head?_dropWhile slashes]

/-- Behind backslashes no tag is found. -/
theorem hasActiveTagAfter_slashes (slashes : ∀ c ∈ added, c = '\\') (active : Bool) :
    hasActiveTagAfter active added = false := by
  induction added generalizing active with
  | nil => rfl
  | cons c added ih =>
    obtain rfl := slashes c List.mem_cons_self
    rw [hasActiveTagAfter, startsTag_of_ne (by decide), Bool.and_false, Bool.false_or]
    exact ih (fun c among => slashes c (List.mem_cons_of_mem _ among)) _

/-- The scan of an escaped text finds nothing, if an even number of backslashes stands before
it or no tag stands behind the backslashes with which the text begins. A backslash and its
double leave the parity as it was, and behind anything else the scan starts anew. -/
theorem hasActiveTagAfter_escapeTags (slashes : ∀ c ∈ added, c = '\\') {active : Bool}
    (settled : startsTag (s.dropWhile (· == '\\')) = true → active = true) :
    hasActiveTagAfter active (escapeTags s ++ added) = false := by
  induction s generalizing active with
  | nil => exact hasActiveTagAfter_slashes slashes active
  | cons c rest ih =>
    rw [escapeTags_cons]
    by_cases slash : c = '\\'
    · subst slash
      rw [startsTag_of_ne (show '\\' ≠ '[' by decide)]
      split <;> rename_i before
      · have even : active = true := settled (by simpa using before)
        simp [hasActiveTagAfter, startsTag_of_ne, even, ih]
      · have free : ¬ startsTag (rest.dropWhile (· == '\\')) = true := by simpa using before
        simp [hasActiveTagAfter, startsTag_of_ne, ih fun starts => absurd starts free]
    · have anew : hasActiveTagAfter true (escapeTags rest ++ added) = false := ih fun _ => rfl
      by_cases bracket : c = '['
      · subst bracket
        have kept := startsTag_escapeTags slashes rest
        split <;> rename_i starts
        · have even : active = true := settled (by simpa [slash] using starts)
          simp [hasActiveTagAfter, startsTag_of_ne, even, anew]
        · have free : startsTag ('[' :: rest) = false := by simpa using starts
          simp [hasActiveTagAfter, kept, free, anew]
      · rw [if_neg (by simp [slash, startsTag_of_ne bracket])]
        simp [hasActiveTagAfter, startsTag_of_ne bracket, slash, anew]

end

/-- An escaped text has no active tag. -/
theorem escape_isInert (s : String) : IsInert (escape s).toList := by
  obtain ⟨added, slashes, closed⟩ := closeBackslash_eq (escapeTags s.toList)
  rw [isInert_iff, escape, String.toList_ofList, closed]
  exact hasActiveTagAfter_escapeTags slashes fun _ => rfl

/-- Whether a markup quotes a text: it has no active tag, and it is the text but for
backslashes. -/
structure Quotes (markup text : String) : Prop where
  inert : IsInert markup.toList
  differs : markup.toList.filter (· ≠ '\\') = text.toList.filter (· ≠ '\\')

theorem quotes_escape (s : String) : Quotes (escape s) s :=
  ⟨escape_isInert s, escape_differs s⟩

end ArtifactAudit.Markup
