import ArtifactAudit.Proofs.Text.Ascii
import ArtifactAudit.Url.Split

/-!
# Schemes

What a text names as its scheme begins with a letter and is in lower case
(`isScheme_splitScheme`). So a text that begins with a scheme, a colon and two slashes
is never taken for an option of a command.
-/

set_option autoImplicit false

namespace ArtifactAudit.Url

/-- Whether a list of characters is a scheme: a letter of ASCII, and then letters,
digits and the signs `+`, `-` and `.`. -/
def IsScheme (s : List Char) : Prop :=
  ∃ first rest, s = first :: rest ∧ first.isAlpha = true ∧ ∀ c ∈ rest, isSchemeChar c = true

/-- Whether a text begins with a scheme, a colon and two slashes. -/
def OpensWithScheme (s : List Char) : Prop :=
  ∃ scheme, IsScheme scheme ∧ scheme ++ [':', '/', '/'] <+: s

theorem toNat_lt_of_isSchemeChar {c : Char} (permitted : isSchemeChar c = true) :
    c.toNat < 128 := by
  simp only [isSchemeChar, Bool.or_eq_true, beq_iff_eq] at permitted
  rcases permitted with ((alphanumeric | rfl) | rfl) | rfl
  · exact Text.toNat_lt_of_isAlphanum alphanumeric
  all_goals decide

/-- What holds of the characters of ASCII that a scheme may hold holds of all of them. -/
theorem of_isSchemeChar {p : Char → Prop}
    (holds : ∀ code < 128, isSchemeChar (Char.ofNat code) = true → p (Char.ofNat code)) {c : Char}
    (permitted : isSchemeChar c = true) : p c :=
  Text.forall_ascii (p := fun c => isSchemeChar c = true → p c) holds
    (toNat_lt_of_isSchemeChar permitted) permitted

/-- Lower case keeps letters letters. -/
theorem isAlpha_toLower {c : Char} (letter : c.isAlpha = true) : c.toLower.isAlpha = true :=
  Text.forall_ascii (p := fun c => c.isAlpha = true → c.toLower.isAlpha = true) (by decide +kernel)
    (Text.toNat_lt_of_isAlphanum (Text.isAlphanum_of_isAlpha letter)) letter

theorem isSchemeChar_toLower {c : Char} (permitted : isSchemeChar c = true) :
    isSchemeChar c.toLower = true :=
  of_isSchemeChar (p := fun c => isSchemeChar c.toLower = true) (by decide +kernel) permitted

/-- A name that passes for a scheme is one in lower case too. -/
theorem isScheme_lower {name : List Char}
    (named : ((name.head?.any Char.isAlpha) && name.all isSchemeChar) = true) :
    IsScheme (name.map Char.toLower) := by
  obtain ⟨opening, permitted⟩ := Bool.and_eq_true_iff.mp named
  cases name with
  | nil => simp at opening
  | cons first others =>
    refine ⟨first.toLower, others.map Char.toLower, rfl, isAlpha_toLower (by simpa using opening),
      fun c member => ?_⟩
    obtain ⟨d, among, rfl⟩ := List.mem_map.mp member
    exact isSchemeChar_toLower (List.all_eq_true.mp permitted d (List.mem_cons_of_mem _ among))

/-- What stands in front of the first colon is a scheme or does not count as one. -/
theorem isScheme_splitScheme {s : List Char} (present : (splitScheme s).1 ≠ []) :
    IsScheme (splitScheme s).1 := by
  simp only [splitScheme] at present ⊢
  cases found : Text.after? ':' s with
  | none => exact absurd (by simp [found]) present
  | some rest =>
    simp only [found] at present ⊢
    split
    · rename_i named
      exact isScheme_lower named
    · rename_i unnamed
      exact absurd (by simp [unnamed]) present

end ArtifactAudit.Url
