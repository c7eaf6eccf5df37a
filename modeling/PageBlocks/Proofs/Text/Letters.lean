import PageBlocks.Text.Ascii

/-!
Letters of ASCII. To make a character small changes capitals only, and it stays a letter if it was one.
-/
namespace PageBlocks.Text

theorem isUpper_iff {c : Char} : c.isUpper = true ↔ 65 ≤ c.toNat ∧ c.toNat ≤ 90 :=
  decide_eq_true_iff

theorem isLower_iff {c : Char} : c.isLower = true ↔ 97 ≤ c.toNat ∧ c.toNat ≤ 122 :=
  Bool.and_eq_true_iff.trans (and_congr decide_eq_true_iff decide_eq_true_iff)

theorem isAlpha_iff {c : Char} : c.isAlpha = true ↔ c.isUpper = true ∨ c.isLower = true :=
  Bool.or_eq_true_iff

theorem toLower_of_not_isUpper {c : Char} (h : ¬ c.isUpper = true) : c.toLower = c := by
  unfold Char.toLower
  split
  next hupper => exact absurd (isUpper_iff.mpr hupper) h
  next => rfl

/-- Capitals are 26 characters. -/
theorem isLower_toLower_of_isUpper {c : Char} (h : c.isUpper = true) : c.toLower.isLower = true := by
  have hcapitals : ∀ n < 91, (Char.ofNat n).isUpper = true → (Char.ofNat n).toLower.isLower = true := by
    decide
  have hc := hcapitals c.toNat (Nat.lt_succ_of_le (isUpper_iff.mp h).2)
  rw [Char.ofNat_toNat] at hc
  exact hc h

theorem isAlpha_toLower {c : Char} (h : c.isAlpha = true) : c.toLower.isAlpha = true := by
  by_cases hupper : c.isUpper = true
  · exact isAlpha_iff.mpr (Or.inr (isLower_toLower_of_isUpper hupper))
  · rwa [toLower_of_not_isUpper hupper]

theorem not_isUpper_of_isLower {c : Char} (h : c.isLower = true) : ¬ c.isUpper = true := by
  rw [isLower_iff] at h
  rw [isUpper_iff]
  omega

theorem toLower_toLower (c : Char) : c.toLower.toLower = c.toLower := by
  by_cases hupper : c.isUpper = true
  · exact toLower_of_not_isUpper (not_isUpper_of_isLower (isLower_toLower_of_isUpper hupper))
  · rw [toLower_of_not_isUpper hupper, toLower_of_not_isUpper hupper]

end PageBlocks.Text
