/-
The time between an approval and the payout.

With `end` the approval time plus the window, a withdrawal can be vetoed
while `now < end` and paid out once `end ≤ now`. There is no moment at
which both hold or neither.
-/
import TokenBridge.Amount

namespace TokenBridge.ReviewWindow

/-- The length used where none is chosen, in seconds. -/
def defaultLength : UInt64 := 300

/-- A quarter of a minute. -/
def minLength : UInt64 := 15

/-- One day. -/
def maxLength : UInt64 := 86400

/-- The lengths that may be chosen, both bounds among them. -/
def isValid (length : UInt64) : Bool := minLength ≤ length && length ≤ maxLength

/-- The bounds as numbers of seconds. -/
theorem isValid_iff {length : UInt64} :
    isValid length = true ↔ 15 ≤ length.toNat ∧ length.toNat ≤ 86400 := by
  unfold isValid
  rw [Bool.and_eq_true, decide_eq_true_eq, decide_eq_true_eq,
    UInt64.le_iff_toNat_le, UInt64.le_iff_toNat_le]
  exact Iff.rfl

/-- The first moment at which the window is over. -/
def closesAt (approvedAt length : UInt64) : UInt64 := saturatingAdd approvedAt length

/-- A review is open before the moment it closes, and not at it. -/
def isOpen (approvedAt length now : UInt64) : Bool := now < closesAt approvedAt length

end TokenBridge.ReviewWindow
