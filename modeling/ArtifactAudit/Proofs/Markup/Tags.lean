import Mathlib.Algebra.Group.Nat.Even
import Mathlib.Data.List.Induction
import ArtifactAudit.Markup.Escape

/-!
# Active tags

A tag stands somewhere in a text, behind a run of backslashes, and is active if the run has
even length (`Active`). That is what the scan of a text finds (`hasActiveTag_iff`), so it can
be decided whether a text is inert, that is, has no active tag.

A tag holds one opening bracket, its own. So a text without brackets in front only moves the
tags that follow (`active_append_iff`), and a bracket that follows is reached by none of the
tags before it (`Active.cases_of_bracket`).
-/

set_option autoImplicit false

namespace ArtifactAudit.Markup

/-! ## Tags -/

/-- Whether a text is a tag: a bracket, a character with which a tag may begin, and no
bracket from there to the closing one. -/
inductive IsTag : List Char → Prop where
  | intro (first : Char) (name : List Char) :
      opensTagName first = true → (∀ c ∈ name, c ≠ '[' ∧ c ≠ ']') →
        IsTag ('[' :: first :: name ++ [']'])

/-- How many backslashes stand at the end of a text. -/
def finalBackslashes (s : List Char) : Nat :=
  (s.reverse.takeWhile (· == '\\')).length

/-- Whether a tag is active in a text, between what stands before it and what stands after
it: the run of backslashes in front of it has even length. -/
structure Active (s before tag after : List Char) : Prop where
  place : s = before ++ tag ++ after
  tag : IsTag tag
  even : Even (finalBackslashes before)

/-- Whether no tag is active in a text. -/
def IsInert (s : List Char) : Prop :=
  ∀ before tag after, ¬ Active s before tag after

theorem not_opensTagName_bracket : opensTagName '[' = false := by decide

theorem not_opensTagName_backslash : opensTagName '\\' = false := by decide

/-- The only opening bracket of a tag stands at its beginning. -/
theorem IsTag.exists_body {tag : List Char} (isTag : IsTag tag) :
    ∃ body, tag = '[' :: body ∧ '[' ∉ body := by
  obtain ⟨first, name, opens, plain⟩ := isTag
  refine ⟨first :: name ++ [']'], rfl, fun among => ?_⟩
  rcases List.mem_append.mp among with among | among
  · rcases List.mem_cons.mp among with rfl | among
    · rw [not_opensTagName_bracket] at opens
      cases opens
    · exact (plain _ among).1 rfl
  · exact absurd (List.mem_singleton.mp among) (by decide)

/-- Of two tags at the beginning of a text the one is the other. -/
theorem IsTag.unique {tag other after rest : List Char} (isTag : IsTag tag) (also : IsTag other)
    (same : tag ++ after = other ++ rest) : tag = other ∧ after = rest := by
  obtain ⟨_, name, _, plain⟩ := isTag
  obtain ⟨_, body, _, plainly⟩ := also
  have cut : ∀ {name rest : List Char}, (∀ c ∈ name, c ≠ '[' ∧ c ≠ ']') →
      (name ++ ']' :: rest).takeWhile (· != ']') = name := by
    intro name rest plain
    rw [List.takeWhile_append_of_pos fun c among => bne_iff_ne.mpr (plain c among).2]
    simp
  simp only [List.cons_append, List.append_assoc, List.cons.injEq, List.nil_append,
    true_and] at same
  obtain ⟨rfl, same⟩ := same
  obtain rfl : name = body := by rw [← cut plain, same, cut plainly]
  obtain ⟨_, rfl⟩ := List.cons.inj (List.append_cancel_left same)
  exact ⟨rfl, rfl⟩

/-- What the test for a tag at the beginning of a text finds. -/
theorem startsTag_iff {s : List Char} :
    startsTag s = true ↔ ∃ tag after, IsTag tag ∧ s = tag ++ after := by
  constructor
  · intro starts
    unfold startsTag at starts
    split at starts
    · rename_i first rest
      obtain ⟨opens, closes⟩ := Bool.and_eq_true_iff.mp starts
      obtain ⟨after, left⟩ := List.head?_eq_some_iff.mp (beq_iff_eq.mp closes)
      refine ⟨'[' :: first :: rest.takeWhile (fun c => c != '[' && c != ']') ++ [']'], after,
        .intro first _ opens fun c among => ?_, ?_⟩
      · simpa using List.all_eq_true.mp (List.all_takeWhile (l := rest)) c among
      · have whole := List.takeWhile_append_dropWhile (p := fun c => c != '[' && c != ']')
          (l := rest)
        rw [left] at whole
        simp [whole]
    · cases starts
  · rintro ⟨_, after, ⟨first, name, opens, plain⟩, rfl⟩
    have dropped : (name ++ ']' :: after).dropWhile (fun c => c != '[' && c != ']') =
        ']' :: after := by
      rw [List.dropWhile_append_of_pos fun c among => by simpa using plain c among]
      simp
    simp [startsTag, opens, dropped]

/-! ## Scanning a text -/

/-- Whether a bracket behind a text is active, given whether one in front of it is. -/
def activeBehind (active : Bool) (s : List Char) : Bool :=
  s.foldl (fun active c => if c = '\\' then !active else true) active

theorem finalBackslashes_concat (s : List Char) (c : Char) :
    finalBackslashes (s ++ [c]) = if c = '\\' then finalBackslashes s + 1 else 0 := by
  simp only [finalBackslashes, List.reverse_append, List.reverse_singleton, List.singleton_append,
    List.takeWhile_cons]
  by_cases backslash : c = '\\' <;> simp [backslash]

/-- A bracket is active behind an even number of backslashes. -/
theorem activeBehind_iff {s : List Char} :
    activeBehind true s = true ↔ Even (finalBackslashes s) := by
  induction s using List.reverseRecOn with
  | nil => simp [activeBehind, finalBackslashes]
  | append_singleton s c ih =>
    have step : activeBehind true (s ++ [c]) =
        if c = '\\' then !activeBehind true s else true := by
      simp [activeBehind]
    rw [step, finalBackslashes_concat]
    split
    · rw [Nat.even_add_one, ← ih, Bool.not_eq_true']
      simp
    · simp

/-- The scan finds a tag that stands where a bracket is active. -/
theorem hasActiveTagAfter_iff {active : Bool} {s : List Char} :
    hasActiveTagAfter active s = true ↔
      ∃ before tag after, IsTag tag ∧ s = before ++ tag ++ after ∧
        activeBehind active before = true := by
  induction s generalizing active with
  | nil =>
    refine ⟨nofun, ?_⟩
    rintro ⟨before, tag, after, isTag, same, _⟩
    obtain ⟨body, rfl, _⟩ := isTag.exists_body
    simp at same
  | cons c s ih =>
    rw [hasActiveTagAfter, Bool.or_eq_true, Bool.and_eq_true, startsTag_iff, ih]
    constructor
    · rintro (⟨active, tag, after, isTag, same⟩ | ⟨before, tag, after, isTag, rfl, behind⟩)
      · exact ⟨[], tag, after, isTag, same, active⟩
      · exact ⟨c :: before, tag, after, isTag, rfl, behind⟩
    · rintro ⟨before, tag, after, isTag, same, behind⟩
      cases before with
      | nil => exact .inl ⟨behind, tag, after, isTag, same⟩
      | cons first before =>
        obtain ⟨rfl, rfl⟩ := List.cons.inj same
        exact .inr ⟨before, tag, after, isTag, rfl, behind⟩

/-- The scan of a text finds its active tags. -/
theorem hasActiveTag_iff {s : List Char} :
    hasActiveTag s = true ↔ ∃ before tag after, Active s before tag after := by
  refine hasActiveTagAfter_iff.trans ?_
  simp only [activeBehind_iff]
  constructor
  · rintro ⟨before, tag, after, isTag, place, even⟩
    exact ⟨before, tag, after, place, isTag, even⟩
  · rintro ⟨before, tag, after, place, isTag, even⟩
    exact ⟨before, tag, after, isTag, place, even⟩

theorem isInert_iff {s : List Char} : IsInert s ↔ hasActiveTag s = false := by
  rw [← Bool.not_eq_true, hasActiveTag_iff]
  simp [IsInert]

instance (s : List Char) : Decidable (IsInert s) :=
  decidable_of_iff (hasActiveTag s = false) isInert_iff.symm

/-! ## Tags in parts of a text -/

/-- Whether a text in front of another leaves the tags of the other as they are: it has no
opening bracket, and no backslash at its end. -/
structure IsLead (front : List Char) : Prop where
  unopened : '[' ∉ front
  settled : front.getLast? ≠ some '\\'

instance (front : List Char) : Decidable (IsLead front) :=
  decidable_of_iff ('[' ∉ front ∧ front.getLast? ≠ some '\\')
    ⟨fun ⟨unopened, settled⟩ => ⟨unopened, settled⟩, fun ⟨unopened, settled⟩ => ⟨unopened, settled⟩⟩

theorem IsLead.append {s t : List Char} (first : IsLead s) (second : IsLead t) :
    IsLead (s ++ t) := by
  refine ⟨fun among => (List.mem_append.mp among).elim first.unopened second.unopened, ?_⟩
  rw [List.getLast?_append]
  cases last : t.getLast? with
  | none => exact first.settled
  | some c => simpa [last] using second.settled

/-- Behind its bracket a tag is a lead. -/
theorem IsTag.exists_lead {tag : List Char} (isTag : IsTag tag) :
    ∃ body, tag = '[' :: body ∧ IsLead body := by
  obtain ⟨body, rfl, free⟩ := isTag.exists_body
  refine ⟨body, rfl, free, ?_⟩
  obtain ⟨first, name, _, _⟩ := isTag
  rw [show (first :: name).append [']'] = (first :: name) ++ [']'] from rfl, List.getLast?_concat]
  decide

/-- Only the backslashes behind the lead count. -/
theorem finalBackslashes_append {front : List Char} (settled : front.getLast? ≠ some '\\')
    (s : List Char) : finalBackslashes (front ++ s) = finalBackslashes s := by
  induction s using List.reverseRecOn with
  | nil =>
    rw [List.append_nil]
    rcases List.eq_nil_or_concat front with rfl | ⟨rest, last, rfl⟩
    · rfl
    · rw [List.concat_eq_append] at settled ⊢
      rw [List.getLast?_concat, Ne, Option.some.injEq] at settled
      rw [finalBackslashes_concat, if_neg settled]
      rfl
  | append_singleton s c ih =>
    rw [← List.append_assoc, finalBackslashes_concat, finalBackslashes_concat, ih]

/-- A lead only moves the active tags that follow. -/
theorem active_append_iff {front s before tag after : List Char} (lead : IsLead front) :
    Active (front ++ s) before tag after ↔
      ∃ between, before = front ++ between ∧ Active s between tag after := by
  constructor
  · rintro ⟨place, isTag, even⟩
    rw [List.append_assoc] at place
    rcases List.append_eq_append_iff.mp place with ⟨between, rfl, rest⟩ | ⟨part, rfl, rest⟩
    · rw [finalBackslashes_append lead.settled] at even
      exact ⟨between, rfl, by rw [rest, List.append_assoc], isTag, even⟩
    · obtain ⟨body, rfl, _⟩ := isTag.exists_body
      cases part with
      | nil =>
        exact ⟨[], by simp, by simpa using rest.symm, isTag, by simp [finalBackslashes]⟩
      | cons c part =>
        obtain ⟨rfl, _⟩ := List.cons.inj rest
        exact absurd (List.mem_append_right before List.mem_cons_self) lead.unopened
  · rintro ⟨between, rfl, place, isTag, even⟩
    refine ⟨by rw [place]; simp, isTag, ?_⟩
    rwa [finalBackslashes_append lead.settled]

/-- A tag in front of a text is active, and the other active tags are those of the text. -/
theorem active_tag_append_iff {opening s before tag after : List Char} (isTag : IsTag opening) :
    Active (opening ++ s) before tag after ↔
      (before = [] ∧ tag = opening ∧ after = s) ∨
        ∃ between, before = opening ++ between ∧ Active s between tag after := by
  constructor
  · intro active
    cases before with
    | nil =>
      obtain ⟨rfl, rfl⟩ := isTag.unique active.tag active.place
      exact .inl ⟨rfl, rfl, rfl⟩
    | cons c before =>
      obtain ⟨body, rfl, lead⟩ := isTag.exists_lead
      obtain ⟨rfl, place⟩ := List.cons.inj active.place
      have settled : ['['].getLast? ≠ some '\\' := by decide
      have even : Even (finalBackslashes before) := by
        rw [← finalBackslashes_append settled]
        exact active.even
      obtain ⟨between, rfl, behind⟩ := (active_append_iff lead).mp ⟨place, active.tag, even⟩
      exact .inr ⟨between, rfl, behind⟩
  · rintro (⟨rfl, rfl, rfl⟩ | ⟨between, rfl, place, tagged, even⟩)
    · exact ⟨rfl, isTag, by simp [finalBackslashes]⟩
    · obtain ⟨body, rfl, lead⟩ := isTag.exists_lead
      refine ⟨by rw [place]; simp, tagged, ?_⟩
      rwa [List.cons_append, ← List.singleton_append (l := body ++ between),
        finalBackslashes_append (by decide), finalBackslashes_append lead.settled]

/-- A tag in front of a bracket ends there, or it begins with the bracket or behind it. -/
theorem Active.cases_of_bracket {s t before tag after : List Char}
    (active : Active (s ++ '[' :: t) before tag after) :
    (∃ rest, after = rest ++ '[' :: t ∧ Active s before tag rest) ∨
      ∃ between, before = s ++ between ∧ '[' :: t = between ++ tag ++ after := by
  obtain ⟨place, isTag, even⟩ := active
  obtain ⟨body, rfl, free⟩ := isTag.exists_body
  rw [List.append_assoc] at place
  rcases List.append_eq_append_iff.mp place with ⟨between, rfl, rest⟩ | ⟨part, rfl, rest⟩
  · exact .inr ⟨between, rfl, by rw [rest, List.append_assoc]⟩
  rcases List.append_eq_append_iff.mp rest with ⟨more, rfl, rfl⟩ | ⟨more, same, opens⟩
  · exact .inl ⟨more, rfl, by simp, isTag, even⟩
  cases part with
  | nil => exact .inr ⟨[], by simp, by simpa using rest.symm⟩
  | cons c part =>
    cases more with
    | nil =>
      rw [List.append_nil] at same
      exact .inl ⟨[], by simpa using opens.symm, by simp [same], isTag, even⟩
    | cons d more =>
      obtain ⟨_, rfl⟩ := List.cons.inj same
      obtain ⟨rfl, _⟩ := List.cons.inj opens
      exact absurd (List.mem_append_right part List.mem_cons_self) free

/-- Behind an inert text a tag is active behind an even number of backslashes, and it is the
only one. -/
theorem active_append_tag_iff {s closing before tag after : List Char} (inert : IsInert s)
    (isTag : IsTag closing) :
    Active (s ++ closing) before tag after ↔
      before = s ∧ tag = closing ∧ after = [] ∧ Even (finalBackslashes s) := by
  constructor
  · intro active
    obtain ⟨body, rfl, free⟩ := isTag.exists_body
    rcases active.cases_of_bracket with ⟨rest, _, within⟩ | ⟨between, rfl, place⟩
    · exact absurd within (inert _ _ _)
    · cases between with
      | nil =>
        have whole : '[' :: body ++ [] = tag ++ after := by simpa using place
        obtain ⟨same, rfl⟩ := isTag.unique active.tag whole
        exact ⟨by simp, same.symm, rfl, by simpa using active.even⟩
      | cons c between =>
        obtain ⟨_, other, _⟩ := active.tag.exists_body
        obtain ⟨_, rfl⟩ := List.cons.inj place
        exact absurd (by simp [other]) free
  · rintro ⟨rfl, rfl, rfl, even⟩
    exact ⟨by simp, isTag, even⟩

end ArtifactAudit.Markup
