/-
Letters of the Latin alphabet as numbers, in upper and in lower case.

Changing the case of a character moves a letter by 32 and leaves all else
where it is. So what is said of letters can be said of numbers, and is
linear arithmetic there.
-/

namespace TokenBridge

/-- Upper case letters are one stretch of numbers. -/
theorem isUpper_iff {c : Char} :
    c.isUpper = true ↔ 65 ≤ c.toNat ∧ c.toNat ≤ 90 := by
  show decide ('A'.val ≤ c.val ∧ c.val ≤ 'Z'.val) = true ↔ _
  rw [decide_eq_true_eq, UInt32.le_iff_toNat_le, UInt32.le_iff_toNat_le]
  exact Iff.rfl

/-- Lower case letters are another, thirty-two above it. -/
theorem isLower_iff {c : Char} :
    c.isLower = true ↔ 97 ≤ c.toNat ∧ c.toNat ≤ 122 := by
  show (decide ('a'.val ≤ c.val) && decide (c.val ≤ 'z'.val)) = true ↔ _
  rw [Bool.and_eq_true, decide_eq_true_eq, decide_eq_true_eq,
    UInt32.le_iff_toNat_le, UInt32.le_iff_toNat_le]
  exact Iff.rfl

/-- Lower case moves letters of upper case, and nothing else, up by 32. -/
theorem toNat_toLower (c : Char) :
    c.toLower.toNat = if c.isUpper then c.toNat + 32 else c.toNat := by
  by_cases hc : c.isUpper = true
  · have hrange := isUpper_iff.mp hc
    have hval : c.val ≥ 'A'.val ∧ c.val ≤ 'Z'.val :=
      ⟨UInt32.le_iff_toNat_le.mpr hrange.1, UInt32.le_iff_toNat_le.mpr hrange.2⟩
    unfold Char.toLower
    rw [dif_pos hval, if_pos hc]
    show (c.val + 32).toNat = c.toNat + 32
    rw [UInt32.toNat_add]
    show (c.toNat + 32) % 2 ^ 32 = c.toNat + 32
    omega
  · have hval : ¬(c.val ≥ 'A'.val ∧ c.val ≤ 'Z'.val) := fun h =>
      hc (decide_eq_true h)
    unfold Char.toLower
    rw [dif_neg hval, if_neg hc]

/-- Upper case moves letters of lower case, and nothing else, down by 32. -/
theorem toNat_toUpper (c : Char) :
    c.toUpper.toNat = if c.isLower then c.toNat - 32 else c.toNat := by
  by_cases hc : c.isLower = true
  · have hrange := isLower_iff.mp hc
    have hval : c.val ≥ 'a'.val ∧ c.val ≤ 'z'.val :=
      ⟨UInt32.le_iff_toNat_le.mpr hrange.1, UInt32.le_iff_toNat_le.mpr hrange.2⟩
    unfold Char.toUpper
    rw [dif_pos hval, if_pos hc]
    show (c.val + ('A'.val - 'a'.val)).toNat = c.toNat - 32
    rw [UInt32.toNat_add]
    -- the difference of the two letters wraps around the word
    show (c.toNat + 0xffffffe0) % 2 ^ 32 = c.toNat - 32
    omega
  · have hval : ¬(c.val ≥ 'a'.val ∧ c.val ≤ 'z'.val) := fun h =>
      hc (Bool.and_eq_true_iff.mpr ⟨decide_eq_true h.1, decide_eq_true h.2⟩)
    unfold Char.toUpper
    rw [dif_neg hval, if_neg hc]

/-- No letter of upper case is left in lower case. -/
theorem isUpper_toLower (c : Char) : c.toLower.isUpper = false := by
  rw [← Bool.not_eq_true, isUpper_iff, toNat_toLower]
  split
  case isTrue hc =>
    have hrange := isUpper_iff.mp hc
    omega
  case isFalse hc =>
    rw [isUpper_iff] at hc
    exact hc

/-- No letter of lower case is left in upper case. -/
theorem isLower_toUpper (c : Char) : c.toUpper.isLower = false := by
  rw [← Bool.not_eq_true, isLower_iff, toNat_toUpper]
  split
  case isTrue hc =>
    have hrange := isLower_iff.mp hc
    omega
  case isFalse hc =>
    rw [isLower_iff] at hc
    exact hc

/-- What is no letter of upper case is in lower case as it stands. -/
theorem toLower_of_not_isUpper {c : Char} (h : c.isUpper = false) :
    c.toLower = c := by
  apply Char.toNat_inj.mp
  rw [toNat_toLower, h]
  rfl

/-- Upper case is undone by lower case, where there was none before. -/
theorem toLower_toUpper {c : Char} (h : c.isUpper = false) :
    c.toUpper.toLower = c := by
  apply Char.toNat_inj.mp
  rw [toNat_toLower]
  by_cases hc : c.isLower = true
  · have hrange := isLower_iff.mp hc
    have hupper : c.toUpper.toNat = c.toNat - 32 := by
      rw [toNat_toUpper, if_pos hc]
    rw [if_pos (isUpper_iff.mpr (by omega))]
    omega
  · have hsame : c.toUpper.toNat = c.toNat := by
      rw [toNat_toUpper, if_neg hc]
    rw [Char.toNat_inj.mp hsame, h]
    rfl

end TokenBridge
