/-!
# Characters of ASCII

A fact about the characters of ASCII is decided for their code points, one by one
(`forall_ascii`). Letters and digits, as they are understood here, belong to ASCII.
-/

set_option autoImplicit false

namespace ArtifactAudit.Text

/-- What holds of the characters with the code points below 128 holds of every
character of ASCII. -/
theorem forall_ascii {p : Char → Prop} (holds : ∀ code < 128, p (Char.ofNat code)) {c : Char}
    (ascii : c.toNat < 128) : p c := by
  have found := holds c.toNat ascii
  rwa [Char.ofNat_toNat] at found

theorem toNat_ofNat_of_valid {code : Nat} (valid : code.isValidChar) :
    (Char.ofNat code).toNat = code := by
  rw [Char.ofNat, dif_pos valid]
  rfl

theorem toNat_lt_of_isAlphanum {c : Char} (alphanumeric : c.isAlphanum = true) :
    c.toNat < 128 := by
  have ranges : c.isAlphanum =
      (decide ('A'.val ≤ c.val ∧ c.val ≤ 'Z'.val) ||
        (decide ('a'.val ≤ c.val) && decide (c.val ≤ 'z'.val)) ||
        (decide ('0'.val ≤ c.val) && decide (c.val ≤ '9'.val))) := rfl
  simp only [ranges, Bool.or_eq_true, Bool.and_eq_true, decide_eq_true_eq,
    UInt32.le_iff_toNat_le] at alphanumeric
  change (((65 ≤ c.toNat ∧ c.toNat ≤ 90) ∨ (97 ≤ c.toNat ∧ c.toNat ≤ 122)) ∨
    (48 ≤ c.toNat ∧ c.toNat ≤ 57)) at alphanumeric
  omega

theorem isAlphanum_of_isAlpha {c : Char} (letter : c.isAlpha = true) : c.isAlphanum = true := by
  simp [Char.isAlphanum, letter]

/-- A character beyond ASCII is left as it is. -/
theorem toLower_of_beyond {c : Char} (beyond : 128 ≤ c.toNat) : c.toLower = c := by
  refine dif_neg fun ⟨_, capital⟩ => ?_
  have small : c.toNat ≤ 'Z'.toNat := UInt32.le_iff_toNat_le.mp capital
  exact absurd (Nat.le_trans beyond small) (by decide)

end ArtifactAudit.Text
