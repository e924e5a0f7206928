import ArtifactAudit.Proofs.Text.Phrase
import ArtifactAudit.Text.LowerCase
import ArtifactAudit.Text.Phrase

/-!
# Lower case and phrases of ASCII

The full lower case of a text depends on the context of its letters and may be longer than the
text. A phrase of ASCII sees nothing of that: of the characters beyond ASCII only the Kelvin
sign and the dotted capital I have a small letter in ASCII (`exists_smallChar`), so the
full form and the one that is computed for phrases are alike (`alikeOn_small`).

The form that is computed does not depend on the case of the letters of ASCII
(`lower_eq_of_sameButCase`).
-/

set_option autoImplicit false

namespace ArtifactAudit.Text

/-! ## Small letters beyond ASCII -/

/-- Of the runs of capitals only the Kelvin sign leads to ASCII. -/
theorem leads_beyond_or_kelvin :
    ∀ run ∈ capitalRuns, 128 ≤ run.first + run.offset ∨
      run.first = 0x212A ∧ run.last = 0x212A := by
  decide +kernel

/-- The small letter of any other character beyond ASCII lies beyond ASCII. -/
theorem exists_smallChar {c : Char} (beyond : 128 ≤ c.toNat) (dotless : c ≠ '\u0130')
    (other : c ≠ '\u212A') : ∃ small, smallChar c = [small] ∧ ¬ IsInline small := by
  unfold smallChar
  rw [if_neg (by omega), if_neg dotless]
  split
  · rename_i run found
    have covers := List.find?_some found
    simp only [CaseRun.covers, Bool.and_eq_true, decide_eq_true_eq] at covers
    refine ⟨_, rfl, not_isInline_ofNat ?_⟩
    rcases leads_beyond_or_kelvin run (List.mem_of_find?_eq_some found) with far | ⟨first, last⟩
    · omega
    · refine absurd (Char.toNat_inj.mp ?_) other
      change c.toNat = 0x212A
      omega
  · refine ⟨c, rfl, fun inline => ?_⟩
    have bound := inline.2
    omega

/-! ## Alike on ASCII -/

theorem lowerChar_of_other {c : Char} (dotless : c ≠ '\u0130') (other : c ≠ '\u212A') :
    lowerChar c = [c.toLower] := by
  rw [lowerChar, if_neg other, if_neg dotless]

/-- The full lower case of a text, whatever precedes it, and the one that is computed for
phrases are alike. A sigma is written in one of two forms, both beyond ASCII. -/
theorem alikeOn_smallFrom (before s : List Char) :
    AlikeOn IsInline (lower s) (smallFrom before s) := by
  induction s generalizing before with
  | nil => exact .nil
  | cons c s ih =>
    have rest := ih (c :: before)
    change AlikeOn IsInline (lowerChar c ++ lower s) (_ ++ smallFrom (c :: before) s)
    by_cases ascii : c.toNat < 128
    · have other : ∀ d : Char, 128 ≤ d.toNat → c ≠ d := by
        rintro d beyond rfl
        omega
      have unsigma : c ≠ '\u03A3' := other _ (by decide)
      rw [lowerChar_of_other (other _ (by decide)) (other _ (by decide)), smallChar, if_pos ascii]
      simpa [unsigma] using AlikeOn.same _ rest
    by_cases dotted : c = '\u0130'
    · subst dotted
      exact .same _ (.same _ rest)
    by_cases kelvin : c = '\u212A'
    · subst kelvin
      have small : smallChar '\u212A' = ['k'] := by decide +kernel
      rw [small]
      exact .same _ rest
    · have beyond : 128 ≤ c.toNat := Nat.le_of_not_lt ascii
      have written : ∀ d ∈ [c], ¬ IsInline d := by
        simp only [List.mem_singleton, forall_eq]
        exact fun inline => ascii (Nat.lt_of_lt_of_le inline.2 (by decide))
      rw [lowerChar_of_other dotted kelvin, toLower_of_beyond beyond]
      split
      · exact .stretch (by simp) written (List.forall_mem_singleton.mpr (by decide)) rest
      · obtain ⟨small, shown, far⟩ := exists_smallChar beyond dotted kelvin
        rw [shown]
        exact .stretch (by simp) written (by simpa using far) rest

/-- The full lower case of a text and the one that is computed for phrases are alike. -/
theorem alikeOn_small (s : List Char) : AlikeOn IsInline (lower s) (small s) :=
  alikeOn_smallFrom [] s

/-! ## The case of letters -/

/-- Whether two texts are the same but for the case of letters of ASCII. -/
def SameButCase (s t : List Char) : Prop :=
  s.map Char.toLower = t.map Char.toLower

instance (s t : List Char) : Decidable (SameButCase s t) :=
  inferInstanceAs (Decidable (_ = _))

theorem SameButCase.length_eq {s t : List Char} (same : SameButCase s t) :
    s.length = t.length := by
  simpa using congrArg List.length same

theorem lowerChar_toLower (c : Char) : lowerChar c.toLower = lowerChar c := by
  by_cases ascii : c.toNat < 128
  · exact forall_ascii (p := fun c => lowerChar c.toLower = lowerChar c) (by decide +kernel) ascii
  · rw [toLower_of_beyond (Nat.le_of_not_lt ascii)]

theorem lower_map_toLower (s : List Char) : lower (s.map Char.toLower) = lower s := by
  induction s with
  | nil => rfl
  | cons c s ih =>
    change lowerChar c.toLower ++ lower (s.map Char.toLower) = lowerChar c ++ lower s
    rw [lowerChar_toLower, ih]

/-- The case of letters of ASCII does not matter to the lower case of a text. -/
theorem lower_eq_of_sameButCase {s t : List Char} (same : SameButCase s t) : lower s = lower t := by
  rw [← lower_map_toLower s, same, lower_map_toLower]

/-- A text is lowered part by part. -/
theorem lower_append (s t : List Char) : lower (s ++ t) = lower s ++ lower t :=
  List.flatMap_append

end ArtifactAudit.Text
