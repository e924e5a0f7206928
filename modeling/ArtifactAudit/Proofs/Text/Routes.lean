import Mathlib.Data.List.Infix
import ArtifactAudit.Proofs.Text.Pieces

/-!
# Routes

A phrase without a certain character stands on one side of it (`infix_append_cons_iff`). A
phrase that begins and ends with a separator is a route: it stands in a text exactly if its
parts follow one another among the inner pieces of the text (`route_infix_iff`). So what is
appended behind a separator makes a route only by its own pieces but for the last one, and
none at all if they do not have the last part of the route (`route_infix_append_iff`).
-/

set_option autoImplicit false

namespace ArtifactAudit.Text

/-- A phrase without a character stands before or behind it. -/
theorem infix_append_cons_iff {α : Type} {phrase s t : List α} {c : α} (free : c ∉ phrase) :
    phrase <:+: s ++ c :: t ↔ phrase <:+: s ∨ phrase <:+: t := by
  have fronts : ∀ {front : List α}, front <:+: phrase → front <+: c :: t → front = [] := by
    intro front part opens
    cases front with
    | nil => rfl
    | cons x front =>
      obtain ⟨rfl, _⟩ := List.cons_prefix_cons.mp opens
      exact absurd (part.subset List.mem_cons_self) free
  rw [List.infix_append_iff, List.infix_cons_iff]
  constructor
  · rintro (before | (opens | behind) | ⟨first, second, rfl, ends, opens⟩)
    · exact .inl before
    · rw [fronts List.infix_rfl opens]
      exact .inl List.nil_infix
    · exact .inr behind
    · obtain rfl := fronts List.infix_append_right opens
      rw [List.append_nil]
      exact .inl ends.isInfix
  · rintro (before | behind)
    · exact .inl before
    · exact .inr (.inl (.inr behind))

variable {separator : Char} {parts : List (List Char)} {s t : List Char}

/-- The phrase of some parts, each with a separator in front, and one behind the last. -/
def route (separator : Char) (parts : List (List Char)) : List Char :=
  parts.flatMap (separator :: ·) ++ [separator]

/-- A route in a text cuts out its parts. -/
theorem pieces_route (free : ∀ part ∈ parts, separator ∉ part) (s t : List Char) :
    pieces separator (s ++ route separator parts ++ t) =
      pieces separator s ++ parts ++ pieces separator t := by
  induction parts generalizing s with
  | nil => simpa [route] using pieces_append_separator s t
  | cons part parts ih =>
    have shape : s ++ route separator (part :: parts) ++ t =
        s ++ separator :: part ++ route separator parts ++ t := by
      simp [route]
    rw [shape, ih (fun other among => free other (List.mem_cons_of_mem part among)),
      pieces_append_separator, pieces_eq_singleton (free part List.mem_cons_self)]
    simp

/-- A route stands in a text exactly if its parts follow one another among the inner pieces. -/
theorem route_infix_iff (some : parts ≠ []) (free : ∀ part ∈ parts, separator ∉ part) :
    route separator parts <:+: s ↔ parts <:+: (pieces separator s).tail.dropLast := by
  constructor
  · rintro ⟨before, after, rfl⟩
    rw [pieces_route free, List.append_assoc, List.tail_append_of_ne_nil (pieces_ne_nil _),
      ← List.append_assoc, List.dropLast_append_of_ne_nil (pieces_ne_nil _)]
    exact List.infix_append _ _ _
  · rintro ⟨front, rest, inner⟩
    have any : pieces separator s ≠ [] := pieces_ne_nil s
    obtain ⟨first, others, cut⟩ := List.exists_cons_of_ne_nil any
    rw [cut, List.tail_cons] at inner
    rcases List.eq_nil_or_concat others with rfl | ⟨middle, last, rfl⟩
    · simp [some] at inner
    · rw [List.concat_eq_append, List.dropLast_concat] at inner
      rw [← joinPieces_pieces separator s, cut, ← inner, List.concat_eq_append]
      obtain ⟨tail, opens⟩ : ∃ tail,
          (rest ++ [last]).flatMap (separator :: ·) = separator :: tail := by
        cases rest <;> simp
      refine ⟨first ++ front.flatMap (separator :: ·), tail, ?_⟩
      simp only [joinPieces, route, List.flatMap_append, List.append_assoc, List.cons_append,
        List.nil_append] at opens ⊢
      rw [opens]

/-- Behind a separator the last piece is of no matter. -/
theorem route_infix_append_cons_iff (some : parts ≠ [])
    (free : ∀ part ∈ parts, separator ∉ part) :
    route separator parts <:+: s ++ separator :: t ↔
      parts <:+: (pieces separator s).tail ++ (pieces separator t).dropLast := by
  rw [route_infix_iff some free, pieces_append_separator,
    List.tail_append_of_ne_nil (pieces_ne_nil _), List.dropLast_append_of_ne_nil (pieces_ne_nil _)]

/-- What is appended behind a separator makes no route without the last part. -/
theorem route_infix_append_iff {front : List (List Char)} {last : List Char}
    (free : ∀ part ∈ front ++ [last], separator ∉ part)
    (absent : last ∉ (pieces separator t).dropLast) :
    route separator (front ++ [last]) <:+: s ++ separator :: t ↔
      route separator (front ++ [last]) <:+: s ++ [separator] := by
  rw [route_infix_append_cons_iff (by simp) free, route_infix_append_cons_iff (by simp) free]
  have empty : (pieces separator ([] : List Char)).dropLast = [] := rfl
  rw [empty, List.append_nil, List.infix_append_iff]
  constructor
  · rintro (before | behind | ⟨first, second, same, ends, opens⟩)
    · exact before
    · exact absurd (behind.subset (by simp)) absent
    · rcases List.eq_nil_or_concat second with rfl | ⟨others, final, rfl⟩
      · rw [same, List.append_nil]
        exact ends.isInfix
      · rw [List.concat_eq_append, ← List.append_assoc] at same
        obtain rfl := List.singleton_inj.mp (List.append_inj_right' same rfl)
        exact absurd (opens.subset (by simp)) absent
  · exact .inl

/-- What is appended behind a separator makes a route of its own pieces. -/
theorem route_infix_append (some : parts ≠ []) (free : ∀ part ∈ parts, separator ∉ part)
    (within : parts <:+: (pieces separator t).dropLast) :
    route separator parts <:+: s ++ separator :: t :=
  (route_infix_append_cons_iff some free).mpr (within.trans List.infix_append_right)

end ArtifactAudit.Text
