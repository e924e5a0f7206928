import Mathlib.Data.List.DropRight
import ArtifactAudit.Text.Cut

/-!
# Blanks at the ends of a text

Without blanks in front, stripping a text takes away its blanks at the end
(`strip_of_head`), and what is left does not end in a blank (`getLast?_strip`); so
stripping once is enough (`strip_strip`). A text whose last character stays keeps
everything in front of it (`dropEndWhile_append`).
-/

set_option autoImplicit false

namespace ArtifactAudit.Text

variable {p : Char → Bool} {s : List Char}

theorem dropEndWhile_eq (p : Char → Bool) (s : List Char) : dropEndWhile p s = s.rdropWhile p :=
  rfl

theorem isPrefix_dropEndWhile (p : Char → Bool) (s : List Char) : dropEndWhile p s <+: s :=
  List.rdropWhile_prefix p s

/-- The last character that is left is none of those that are taken away. -/
theorem getLast?_dropEndWhile (p : Char → Bool) (s : List Char) :
    ∀ c ∈ (dropEndWhile p s).getLast?, p c = false := by
  intro c last
  have nonempty : s.rdropWhile p ≠ [] := by
    intro nothing
    rw [dropEndWhile_eq, nothing] at last
    cases last
  have stays := List.rdropWhile_last_not p s nonempty
  rw [dropEndWhile_eq, List.getLast?_eq_some_getLast nonempty] at last
  rw [← Option.some_inj.mp last]
  exact Bool.eq_false_iff.mpr stays

theorem dropEndWhile_eq_self_iff : dropEndWhile p s = s ↔ ∀ c ∈ s.getLast?, p c = false := by
  constructor
  · intro whole
    have last := getLast?_dropEndWhile p s
    rwa [whole] at last
  · intro last
    rw [dropEndWhile_eq, List.rdropWhile_eq_self_iff]
    intro nonempty
    rw [last _ (List.getLast_mem_getLast? nonempty)]
    exact Bool.false_ne_true

/-- What stands in front of a character that stays is kept. -/
theorem dropEndWhile_append {front : List Char} (last : ∀ c ∈ front.getLast?, p c = false)
    (s : List Char) : dropEndWhile p (front ++ s) = front ++ dropEndWhile p s := by
  induction s using List.reverseRecOn with
  | nil =>
    rw [List.append_nil, dropEndWhile_eq_self_iff.mpr last]
    exact (List.append_nil front).symm
  | append_singleton s c ih =>
    rw [dropEndWhile_eq] at ih
    rw [dropEndWhile_eq, dropEndWhile_eq, ← List.append_assoc, List.rdropWhile_concat,
      List.rdropWhile_concat, ih]
    split
    · rfl
    · exact List.append_assoc front s [c]

/-- Without blanks in front there are only those at the end to take away. -/
theorem strip_of_head (head : ∀ c ∈ s.head?, isBlank c = false) :
    strip s = dropEndWhile isBlank s := by
  have front : s.dropWhile isBlank = s := by
    cases s with
    | nil => rfl
    | cons c s =>
      have stays := head c rfl
      exact List.dropWhile_cons_of_neg (by rw [stays]; exact Bool.false_ne_true)
  rw [strip, trimWhile, front]

theorem getLast?_strip (s : List Char) : ∀ c ∈ (strip s).getLast?, isBlank c = false :=
  getLast?_dropEndWhile isBlank (s.dropWhile isBlank)

/-- Stripping a second time changes nothing. -/
theorem strip_strip (s : List Char) : strip (strip s) = strip s := by
  have head : ∀ c ∈ (strip s).head?, isBlank c = false := by
    intro c first
    obtain ⟨rest, whole⟩ := isPrefix_dropEndWhile isBlank (s.dropWhile isBlank)
    have opens : c ∈ (s.dropWhile isBlank).head? := by
      rw [← whole]
      exact List.mem_head?_append_of_mem_head? first
    have stays := List.head?_dropWhile_not isBlank s
    rwa [Option.mem_def.mp opens] at stays
  rw [strip_of_head head, dropEndWhile_eq_self_iff]
  exact getLast?_strip s

end ArtifactAudit.Text
