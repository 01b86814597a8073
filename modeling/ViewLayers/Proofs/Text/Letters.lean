import Mathlib.Data.List.Basic

/-!
Letters and digits of ASCII, by their numbers. A capital stands 32 before its small letter.
-/

namespace ViewLayers.Text

variable {c : Char}

lemma isDigit_iff : c.isDigit = true ↔ 48 ≤ c.toNat ∧ c.toNat ≤ 57 :=
  (Bool.and_eq_true_iff ..).trans (and_congr decide_eq_true_iff decide_eq_true_iff)

lemma isUpper_iff : c.isUpper = true ↔ 65 ≤ c.toNat ∧ c.toNat ≤ 90 := decide_eq_true_iff

lemma isLower_iff : c.isLower = true ↔ 97 ≤ c.toNat ∧ c.toNat ≤ 122 :=
  (Bool.and_eq_true_iff ..).trans (and_congr decide_eq_true_iff decide_eq_true_iff)

lemma isAlpha_iff :
    c.isAlpha = true ↔ 65 ≤ c.toNat ∧ c.toNat ≤ 90 ∨ 97 ≤ c.toNat ∧ c.toNat ≤ 122 :=
  (Bool.or_eq_true_iff ..).trans (or_congr isUpper_iff isLower_iff)

/-! ### Capitals -/

lemma toNat_toUpper (h : c.isLower = true) : c.toUpper.toNat + 32 = c.toNat := by
  have hrange := isLower_iff.1 h
  have hshift : ('A'.val - 'a'.val).toNat = 4294967264 := rfl
  have hval : c.toUpper.val = c.val + ('A'.val - 'a'.val) := by
    unfold Char.toUpper
    rw [dif_pos ⟨hrange.1, hrange.2⟩]
  have hnat : c.toUpper.toNat = (c.toNat + 4294967264) % 2 ^ 32 := by
    rw [Char.toNat, hval, UInt32.toNat_add, hshift]
    rfl
  omega

lemma toUpper_eq_self (h : c.isLower = false) : c.toUpper = c := by
  have hrange : ¬ (97 ≤ c.toNat ∧ c.toNat ≤ 122) := by rw [← isLower_iff, h]; exact nofun
  exact dif_neg hrange

lemma isUpper_toUpper (h : c.isLower = true) : c.toUpper.isUpper = true := by
  have hnat := toNat_toUpper h
  rw [isLower_iff] at h
  rw [isUpper_iff]
  omega

lemma isLower_toUpper (c : Char) : c.toUpper.isLower = false := by
  cases h : c.isLower with
  | false => rw [toUpper_eq_self h, h]
  | true =>
    have hupper := isUpper_toUpper h
    rw [isUpper_iff] at hupper
    rw [Bool.eq_false_iff, ne_eq, isLower_iff]
    omega

end ViewLayers.Text
