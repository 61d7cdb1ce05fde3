/-
An amount in other units is the exact one, cut off to whole units.

What is counted with `src` decimals as `amount` comes to
`amount * 10 ^ dest / 10 ^ src` with `dest` decimals (`exactUnits`). The
rule forms neither of these powers but only that of the gap, and from 39
decimals on that one is no amount either. On the way up it then gives up,
and there is nothing to give: one unit already comes to such a power. On
the way down it answers nothing, and nothing is right: every amount is less
than such a power. Only zero is refused without need, so the rule is exact
for the amounts that submissions bring, which are at least one.
-/
import Mathlib.Algebra.Group.Nat.Defs
import TokenBridge.Proofs.Records

namespace TokenBridge

open Outcome

-- ================================================================= the factor

/-- The powers of ten that are no amounts. -/
theorem amountLimit_le_pow_iff {n : Nat} : amountLimit ≤ 10 ^ n ↔ 39 ≤ n := by
  constructor
  · intro hlimit
    by_cases hn : 39 ≤ n
    · exact hn
    · have hpow : 10 ^ n ≤ 10 ^ 38 :=
        Nat.pow_le_pow_right (by decide) (by omega)
      have hlast : 10 ^ 38 < amountLimit := by decide
      omega
  · intro hn
    have hpow : 10 ^ 39 ≤ 10 ^ n := Nat.pow_le_pow_right (by decide) hn
    have hfirst : amountLimit ≤ 10 ^ 39 := by decide
    omega

theorem unitFactor?_eq_some {decimals : UInt8} {factor : Amount}
    (h : unitFactor? decimals = some factor) :
    factor.toNat = 10 ^ decimals.toNat :=
  (Amount.ofNat?_eq_some_iff.mp h).symm

/-- No amount holds a power of ten past the thirty-eighth. -/
theorem unitFactor?_eq_none_iff {decimals : UInt8} :
    unitFactor? decimals = none ↔ 39 ≤ decimals.toNat :=
  Amount.ofNat?_eq_none_iff.trans amountLimit_le_pow_iff

section

variable {low high : UInt8}

/-- The gap between two scales, added to the lower one, is the higher. -/
theorem toNat_gap (h : low < high) :
    (high - low).toNat + low.toNat = high.toNat := by
  have hle := UInt8.le_iff_toNat_le.mp (UInt8.le_of_lt h)
  rw [UInt8.toNat_sub_of_le _ _ (UInt8.le_of_lt h)]
  omega

theorem unitFactor?_gap_eq_none_iff (h : low < high) :
    unitFactor? (high - low) = none ↔ low.toNat + 39 ≤ high.toNat := by
  have hgap := toNat_gap h
  rw [unitFactor?_eq_none_iff]
  omega

end

-- ========================================================== the exact amount

/-- What an amount counted with `src` decimals comes to with `dest`
decimals, cut off to whole units. -/
def exactUnits (amount : Amount) (src dest : UInt8) : Nat :=
  amount.toNat * 10 ^ dest.toNat / 10 ^ src.toNat

section

variable {amount : Amount} {src dest : UInt8}

/-- Between equal scales the exact amount is the amount. -/
theorem exactUnits_self : exactUnits amount src src = amount.toNat :=
  Nat.mul_div_cancel _ (Nat.pow_pos (by decide))

theorem exactUnits_up (up : src < dest) :
    exactUnits amount src dest = amount.toNat * 10 ^ (dest - src).toNat := by
  rw [exactUnits, ← toNat_gap up, Nat.pow_add, ← Nat.mul_assoc]
  exact Nat.mul_div_cancel _ (Nat.pow_pos (by decide))

theorem exactUnits_down (down : dest < src) :
    exactUnits amount src dest = amount.toNat / 10 ^ (src - dest).toNat := by
  rw [exactUnits, ← toNat_gap down, Nat.pow_add]
  exact Nat.mul_div_mul_right _ _ (Nat.pow_pos (by decide))

/-- Across 39 decimals even one unit grows out of range. -/
theorem amountLimit_le_exactUnits (positive : 1 ≤ amount.toNat)
    (gap : src.toNat + 39 ≤ dest.toNat) :
    amountLimit ≤ exactUnits amount src dest := by
  have hup : src < dest := UInt8.lt_iff_toNat_lt.mpr (by omega)
  have hgap := toNat_gap hup
  have hpow : amountLimit ≤ 10 ^ (dest - src).toNat :=
    amountLimit_le_pow_iff.mpr (by omega)
  rw [exactUnits_up hup]
  exact Nat.le_trans hpow (Nat.le_mul_of_pos_left _ positive)

/-- Back across them nothing is left of any amount. -/
theorem exactUnits_eq_zero (gap : dest.toNat + 39 ≤ src.toNat) :
    exactUnits amount src dest = 0 := by
  have hdown : dest < src := UInt8.lt_iff_toNat_lt.mpr (by omega)
  have hgap := toNat_gap hdown
  have hpow : amountLimit ≤ 10 ^ (src - dest).toNat :=
    amountLimit_le_pow_iff.mpr (by omega)
  rw [exactUnits_down hdown]
  exact Nat.div_eq_of_lt (Nat.lt_of_lt_of_le amount.toNat_lt hpow)

-- ================================================================== the rule

/-- The exact amount, or the refusal where it is none. -/
def rescaleExactly (amount : Amount) (src dest : UInt8) :
    Except ScalingOverflow Amount :=
  (Amount.ofNat? (exactUnits amount src dest)).elim
    (.error ⟨amount, src, dest⟩) .ok

/-- The exact rule gives the exact amount, or nothing. -/
theorem rescaleExactly_eq_ok_iff {scaled : Amount} :
    rescaleExactly amount src dest = .ok scaled
      ↔ scaled.toNat = exactUnits amount src dest := by
  rw [eq_comm (a := scaled.toNat), ← Amount.ofNat?_eq_some_iff, rescaleExactly]
  cases Amount.ofNat? (exactUnits amount src dest) with
  | none => simp
  | some value => simp

/-- Beyond the largest amount the exact rule refuses with all it was given. -/
theorem rescaleExactly_of_beyond
    (beyond : amountLimit ≤ exactUnits amount src dest) :
    rescaleExactly amount src dest = .error ⟨amount, src, dest⟩ := by
  rw [rescaleExactly, Amount.ofNat?_eq_none_iff.mpr beyond]
  rfl

/-- Growing by a factor that is no amount is refused, even for zero. -/
theorem rescale_across (gap : src.toNat + 39 ≤ dest.toNat) :
    rescale amount src dest = .error ⟨amount, src, dest⟩ := by
  have hup : src < dest := UInt8.lt_iff_toNat_lt.mpr (by omega)
  rw [rescale, if_neg (UInt8.ne_of_lt hup), if_pos hup,
    (unitFactor?_gap_eq_none_iff hup).mpr gap]
  rfl

/-- Scaling up multiplies, and what is past the limit is refused. Of a positive
amount the limit is passed by a missing factor as well. -/
theorem rescale_up (up : src < dest) (positive : 1 ≤ amount.toNat) :
    rescale amount src dest = rescaleExactly amount src dest := by
  cases hfactor : unitFactor? (dest - src) with
  | none =>
      have hgap := (unitFactor?_gap_eq_none_iff up).mp hfactor
      rw [rescale_across hgap,
        rescaleExactly_of_beyond (amountLimit_le_exactUnits positive hgap)]
  | some factor =>
      rw [rescale, if_neg (UInt8.ne_of_lt up), if_pos up, hfactor,
        rescaleExactly, exactUnits_up up, ← unitFactor?_eq_some hfactor,
        Option.bind_some]
      cases Amount.ofNat? (amount.toNat * factor.toNat) with
      | none => rfl
      | some scaled => rfl

/-- Scaling down divides, and a missing factor leaves nothing over. -/
theorem rescale_down (down : dest < src) :
    rescale amount src dest = rescaleExactly amount src dest := by
  have hne : src ≠ dest := fun h => UInt8.ne_of_lt down h.symm
  have hnot : ¬src < dest := UInt8.not_lt.mpr (UInt8.le_of_lt down)
  rw [rescale, if_neg hne, if_neg hnot]
  symm
  cases hfactor : unitFactor? (src - dest) with
  | none =>
      have hgap := (unitFactor?_gap_eq_none_iff down).mp hfactor
      exact rescaleExactly_eq_ok_iff.mpr (exactUnits_eq_zero hgap).symm
  | some factor =>
      refine rescaleExactly_eq_ok_iff.mpr ?_
      rw [exactUnits_down down, ← unitFactor?_eq_some hfactor]

/-- What is more than nothing is rescaled exactly, whatever the units. -/
theorem rescale_eq_rescaleExactly (positive : 1 ≤ amount.toNat) :
    rescale amount src dest = rescaleExactly amount src dest := by
  by_cases hup : src < dest
  · exact rescale_up hup positive
  · by_cases hdown : dest < src
    · exact rescale_down hdown
    · have hsame : src = dest :=
        UInt8.le_antisymm (UInt8.not_lt.mp hdown) (UInt8.not_lt.mp hup)
      rw [hsame, rescale, if_pos rfl]
      exact (rescaleExactly_eq_ok_iff.mpr exactUnits_self.symm).symm

end

-- ============================================================== what is paid

theorem Bridge.amount_pos_of_submit {b b' : Bridge} {c : Context}
    {funds : List Coin} {s : Submission} {receipt : Receipt}
    (h : b.submit c funds s = .ok (receipt, b')) : 1 ≤ s.amount.toNat := by
  obtain ⟨told⟩ := submitted_of_submit h
  exact Nat.pos_of_ne_zero told.amount_ne

/-- At every moment of every run a record pays the exact amount, and it
pays as soon as that is an amount. -/
theorem Run.payout_eq_ok_iff (r : Run) {hash : Word} {w : Withdrawal}
    (stored : r.last.bridge.withdrawals.get? hash = some w)
    {payout : Amount} :
    w.payout = .ok payout
      ↔ payout.toNat = exactUnits w.amount w.srcDecimals w.destDecimals := by
  have hchecked := (checked_invariant.throughout r).now.2 hash w stored
  have hpositive : 1 ≤ w.amount.toNat := Nat.pos_of_ne_zero hchecked.amount
  rw [← rescaleExactly_eq_ok_iff, ← rescale_eq_rescaleExactly hpositive]
  exact mapError_eq_ok_iff

/-- An amount of at least one, which every submission that is taken brings,
is rescaled to the exact one if that is an amount, and is refused with all
that was asked if not. Gaps of 39 decimals and more are no exception: up
there is no such amount, down it is nothing. -/
theorem rescale_exact (amount : Amount) (src dest : UInt8)
    (positive : 1 ≤ amount.toNat) :
    (amount.toNat * 10 ^ dest.toNat / 10 ^ src.toNat ≤ 2 ^ 128 - 1 →
        ∃ scaled, rescale amount src dest = .ok scaled
          ∧ scaled.toNat = amount.toNat * 10 ^ dest.toNat / 10 ^ src.toNat)
      ∧ (2 ^ 128 - 1 < amount.toNat * 10 ^ dest.toNat / 10 ^ src.toNat →
        rescale amount src dest = .error ⟨amount, src, dest⟩)
      ∧ (src.toNat + 39 ≤ dest.toNat →
        2 ^ 128 - 1 < amount.toNat * 10 ^ dest.toNat / 10 ^ src.toNat
          ∧ rescale amount src dest = .error ⟨amount, src, dest⟩)
      ∧ (dest.toNat + 39 ≤ src.toNat →
        amount.toNat * 10 ^ dest.toNat / 10 ^ src.toNat = 0
          ∧ rescale amount src dest = .ok .zero)
      ∧ ∀ (b b' : Bridge) (c : Context) (funds : List Coin) (s : Submission)
          (receipt : Receipt), b.submit c funds s = .ok (receipt, b') →
          1 ≤ s.amount.toNat := by
  have hlimit : amountLimit = 2 ^ 128 := by decide
  have hvalue : amount.toNat * 10 ^ dest.toNat / 10 ^ src.toNat
      = exactUnits amount src dest := rfl
  -- from here on the rule is the exact amount, compared with the limit
  have hrule : rescale amount src dest = rescaleExactly amount src dest :=
    rescale_eq_rescaleExactly positive
  rw [hvalue, hrule]
  refine ⟨fun fits => ?fits, fun beyond => ?beyond, fun gap => ?up,
    fun gap => ?down, fun b b' c funds s receipt h => ?brought⟩
  case fits =>
    have hlt : exactUnits amount src dest < amountLimit := by omega
    exact ⟨⟨_, hlt⟩, rescaleExactly_eq_ok_iff.mpr rfl, rfl⟩
  case beyond => exact rescaleExactly_of_beyond (by omega)
  case up =>
    have hbeyond : amountLimit ≤ exactUnits amount src dest :=
      amountLimit_le_exactUnits positive gap
    exact ⟨by omega, rescaleExactly_of_beyond hbeyond⟩
  case down =>
    have hzero : exactUnits amount src dest = 0 := exactUnits_eq_zero gap
    exact ⟨hzero, rescaleExactly_eq_ok_iff.mpr hzero.symm⟩
  case brought => exact Bridge.amount_pos_of_submit h

/-- On both sides of each border: the largest amount that takes one more
digit and the one after it, and a gap of 38 decimals and of 39, up and
down. -/
theorem rescale_beside_limit :
    (∃ scaled,
        rescale ⟨34028236692093846346337460743176821145, by decide⟩ 0 1
          = .ok scaled
        ∧ scaled.toNat = 340282366920938463463374607431768211450)
      ∧ rescale ⟨34028236692093846346337460743176821146, by decide⟩ 0 1
        = .error ⟨⟨34028236692093846346337460743176821146, by decide⟩, 0, 1⟩
      ∧ (∃ scaled, rescale ⟨1, by decide⟩ 217 255 = .ok scaled
        ∧ scaled.toNat = 10 ^ 38)
      ∧ rescale ⟨1, by decide⟩ 216 255 = .error ⟨⟨1, by decide⟩, 216, 255⟩
      ∧ (∃ scaled, rescale ⟨2 ^ 128 - 1, by decide⟩ 255 217 = .ok scaled
        ∧ scaled.toNat = 3)
      ∧ rescale ⟨2 ^ 128 - 1, by decide⟩ 255 216 = .ok .zero :=
  ⟨(rescale_exact ⟨_, _⟩ 0 1 (by decide)).1 (by decide),
    (rescale_exact ⟨_, _⟩ 0 1 (by decide)).2.1 (by decide),
    (rescale_exact ⟨_, _⟩ 217 255 (by decide)).1 (by decide),
    ((rescale_exact ⟨_, _⟩ 216 255 (by decide)).2.2.1 (by decide)).2,
    (rescale_exact ⟨_, _⟩ 255 217 (by decide)).1 (by decide),
    ((rescale_exact ⟨_, _⟩ 255 216 (by decide)).2.2.2.1 (by decide)).2⟩

end TokenBridge
