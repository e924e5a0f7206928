import Mathlib.Data.List.Infix
import ArtifactAudit.Cluster.Kubectl
import ArtifactAudit.Proofs.Text.Ascii

/-!
# Phrases in altered texts

A text is altered on its way, but characters of some class may be left where they are: only
what stands between them is written in another way, and it does not vanish. The two texts
are then alike on that class (`AlikeOn`), and a phrase of its characters stands in both of
them or in neither (`AlikeOn.infix_iff`).

Such a class are the characters that stand within a line of ASCII (`IsInline`). Unifying line
ends leaves them alone (`alikeOn_unifyNewlines`).
-/

set_option autoImplicit false

namespace ArtifactAudit.Text

variable {α : Type}

/-! ## Texts that are alike on a class -/

/-- Two texts are alike on a class of characters if they differ only in stretches without
any, and no such stretch is empty in one of them alone. -/
inductive AlikeOn (kept : α → Prop) : List α → List α → Prop where
  | nil : AlikeOn kept [] []
  | same (x : α) {s t : List α} : AlikeOn kept s t → AlikeOn kept (x :: s) (x :: t)
  | stretch {before after s t : List α} :
      (before = [] ↔ after = []) → (∀ x ∈ before, ¬ kept x) → (∀ x ∈ after, ¬ kept x) →
        AlikeOn kept s t → AlikeOn kept (before ++ s) (after ++ t)

/-- A phrase does not begin before a stretch of other characters. -/
theorem prefix_of_stretch {kept : α → Prop} {phrase before s : List α}
    (phrasal : ∀ x ∈ phrase, kept x) (other : ∀ x ∈ before, ¬ kept x)
    (opens : phrase <+: before ++ s) : phrase = [] ∨ before = [] := by
  cases phrase with
  | nil => exact .inl rfl
  | cons x phrase =>
    cases before with
    | nil => exact .inr rfl
    | cons y before =>
      obtain ⟨rfl, _⟩ := List.cons_prefix_cons.mp opens
      exact absurd (phrasal x List.mem_cons_self) (other x List.mem_cons_self)

/-- A phrase does not reach into a stretch of other characters. -/
theorem infix_of_stretch {kept : α → Prop} {phrase before s : List α}
    (phrasal : ∀ x ∈ phrase, kept x) (other : ∀ x ∈ before, ¬ kept x)
    (stands : phrase <:+: before ++ s) : phrase <:+: s := by
  induction before with
  | nil => exact stands
  | cons y before ih =>
    rcases List.infix_cons_iff.mp stands with opens | later
    · rcases prefix_of_stretch phrasal other (s := s) opens with rfl | impossible
      · exact List.nil_infix
      · cases impossible
    · exact ih (fun x among => other x (List.mem_cons_of_mem y among)) later

namespace AlikeOn

variable {kept : α → Prop} {s t phrase : List α}

theorem symm (alike : AlikeOn kept s t) : AlikeOn kept t s := by
  induction alike with
  | nil => exact .nil
  | same x _ ih => exact .same x ih
  | stretch both before after _ ih => exact .stretch both.symm after before ih

theorem isPrefix (alike : AlikeOn kept s t) (phrasal : ∀ x ∈ phrase, kept x)
    (opens : phrase <+: s) : phrase <+: t := by
  induction alike generalizing phrase with
  | nil => exact opens
  | same x _ ih =>
    cases phrase with
    | nil => exact List.nil_prefix
    | cons y phrase =>
      obtain ⟨rfl, more⟩ := List.cons_prefix_cons.mp opens
      have rest := ih (fun z among => phrasal z (List.mem_cons_of_mem y among)) more
      exact List.cons_prefix_cons.mpr ⟨rfl, rest⟩
  | stretch both before after _ ih =>
    rcases prefix_of_stretch phrasal before opens with rfl | rfl
    · exact List.nil_prefix
    · obtain rfl := both.mp rfl
      exact ih phrasal opens

theorem isInfix (alike : AlikeOn kept s t) (phrasal : ∀ x ∈ phrase, kept x)
    (stands : phrase <:+: s) : phrase <:+: t := by
  induction alike with
  | nil => exact stands
  | same x rest ih =>
    rcases List.infix_cons_iff.mp stands with opens | later
    · exact ((same x rest).isPrefix phrasal opens).isInfix
    · exact List.infix_cons (ih later)
  | stretch both before after _ ih =>
    have rest := ih (infix_of_stretch phrasal before stands)
    exact rest.trans (List.suffix_append _ _).isInfix

/-- A phrase of characters of the class stands in both texts or in neither. -/
theorem infix_iff (alike : AlikeOn kept s t) (phrasal : ∀ x ∈ phrase, kept x) :
    phrase <:+: s ↔ phrase <:+: t :=
  ⟨alike.isInfix phrasal, alike.symm.isInfix phrasal⟩

end AlikeOn

/-! ## Characters of a line -/

/-- Whether a character stands within a line: it belongs to ASCII and is no control. -/
def IsInline (c : Char) : Prop :=
  0x20 ≤ c.toNat ∧ c.toNat < 0x7F

instance (c : Char) : Decidable (IsInline c) :=
  inferInstanceAs (Decidable (_ ∧ _))

theorem forall_isInline {s : List Char} (inline : (s.all fun c => decide (IsInline c)) = true) :
    ∀ c ∈ s, IsInline c :=
  fun c among => of_decide_eq_true (List.all_eq_true.mp inline c among)

/-- The character with a code point beyond ASCII stands in no phrase of one line. It is the
null character if the code point is none of Unicode. -/
theorem not_isInline_ofNat {code : Nat} (beyond : 128 ≤ code) : ¬ IsInline (Char.ofNat code) := by
  by_cases valid : code.isValidChar
  · rw [IsInline, toNat_ofNat_of_valid valid]
    omega
  · rw [Char.ofNat, dif_neg valid]
    decide

/-- The text with unified line ends, of which a character precedes. -/
def unifyAfter (previous : Char) (s : List Char) : List Char :=
  (s.zip (previous :: s)).filterMap fun (c, previous) =>
    if c = '\n' && previous = '\r' then none
    else some (if c = '\r' then '\n' else c)

theorem unifyAfter_cons (previous c : Char) (s : List Char) :
    unifyAfter previous (c :: s) =
      if c = '\n' ∧ previous = '\r' then unifyAfter c s
      else (if c = '\r' then '\n' else c) :: unifyAfter c s := by
  unfold unifyAfter
  rw [List.zip_cons_cons, List.filterMap_cons]
  by_cases dropped : c = '\n' ∧ previous = '\r'
  · simp [dropped]
  · have kept : (c = '\n' && previous = '\r') = false := by simpa using dropped
    simp only [kept, if_neg dropped, Bool.false_eq_true, if_false]

/-- A text is left alone by unifying its line ends, whatever stretch of line ends is being
gone through. -/
theorem alikeOn_unifyAfter (s : List Char) (previous : Char) (before after : List Char)
    (both : before = [] ↔ after = []) (opened : previous = '\r' → before ≠ [])
    (other : ∀ c ∈ before, ¬ IsInline c) (others : ∀ c ∈ after, ¬ IsInline c) :
    AlikeOn IsInline (before ++ s) (after ++ unifyAfter previous s) := by
  have feed : ¬ IsInline '\n' := by decide
  have back : ¬ IsInline '\r' := by decide
  have longer : ∀ {front : List Char} {c : Char}, (∀ d ∈ front, ¬ IsInline d) → ¬ IsInline c →
      ∀ d ∈ front ++ [c], ¬ IsInline d := fun free last =>
    List.forall_mem_append.mpr ⟨free, by simpa using last⟩
  induction s generalizing previous before after with
  | nil => exact .stretch both other others .nil
  | cons c s ih =>
    rw [unifyAfter_cons]
    split
    · rename_i dropped
      obtain ⟨rfl, rfl⟩ := dropped
      have rest := ih '\n' (before ++ ['\n']) after
        (by simpa [← both] using opened rfl) (by simp) (longer other feed) others
      rwa [List.append_assoc] at rest
    · by_cases returns : c = '\r'
      · subst returns
        have rest := ih '\r' (before ++ ['\r']) (after ++ ['\n'])
          (by simp) (by simp) (longer other back) (longer others feed)
        rwa [List.append_assoc, List.append_assoc] at rest
      · have rest := ih c [] [] Iff.rfl
          (fun same => absurd same returns) (by simp) (by simp)
        rw [if_neg returns]
        exact .stretch both other others (.same c rest)

/-- Unifying line ends leaves the characters within lines alone. -/
theorem alikeOn_unifyNewlines (s : List Char) : AlikeOn IsInline s (unifyNewlines s) :=
  alikeOn_unifyAfter s ' ' [] [] Iff.rfl (by decide) (by simp) (by simp)

end ArtifactAudit.Text
