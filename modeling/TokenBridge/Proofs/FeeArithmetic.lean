/-
The fee and the rest of an amount, at every rate there is.

No cap is assumed here. The product that the fee is cut off from is exact,
since its word is wider than it needs, so there are two faults and no more:
the fee is no amount, or it is more than what it is taken from. Neither
happens up to the whole, but the whole is not their border: what is cut off
leaves small amounts a rate that is higher. A larger amount or a higher
rate makes the product larger, and so the fee. The product of a sum is the
sum of the products; cut off apart, two of them lose less than two units,
so at most one unit more than cut off together.
-/
import Mathlib.Algebra.Group.Nat.Defs
import TokenBridge.Proofs.Rates

namespace TokenBridge.Fee

section

variable {amount fee net : Amount} {rate : UInt64}

-- ================================================================= the faults

/-- A fee is missing where the quotient is no amount. -/
theorem ofRate?_eq_none_iff :
    ofRate? amount rate = none
      ↔ amountLimit ≤ amount.toNat * rate.toNat / wholeRate := by
  rw [ofRate?_eq_ofNat?]
  exact Amount.ofNat?_eq_none_iff

/-- What is left after a fee and the fee make up the amount. -/
theorem netOfRate?_eq_some_iff :
    netOfRate? amount rate = some net
      ↔ net.toNat + amount.toNat * rate.toNat / wholeRate = amount.toNat := by
  rw [netOfRate?, Option.bind_eq_some_iff]
  constructor
  · intro ⟨fee, hfee, hnet⟩
    rw [ofRate?_eq_some_iff.mp hfee]
    exact Amount.sub?_eq_some_iff.mp hnet
  · intro hsum
    -- a fee that the amount can bear is never out of range
    have hlt : amount.toNat * rate.toNat / wholeRate < amountLimit := by
      have := amount.toNat_lt
      omega
    exact ⟨⟨_, hlt⟩, ofRate?_eq_some_iff.mpr rfl,
      Amount.sub?_eq_some_iff.mpr hsum⟩

/-- What is left faults where the fee does, and where there is too little. -/
theorem netOfRate?_eq_none_iff :
    netOfRate? amount rate = none
      ↔ ofRate? amount rate = none
        ∨ ∃ fee, ofRate? amount rate = some fee ∧ amount < fee := by
  unfold netOfRate?
  cases hfee : ofRate? amount rate with
  | none => simp
  | some fee => simp [Amount.sub?_eq_none_iff]

/-- The fee and what is left are the amount again. -/
theorem add_net (hfee : ofRate? amount rate = some fee)
    (hnet : netOfRate? amount rate = some net) :
    fee.toNat + net.toNat = amount.toNat := by
  have hvalue := ofRate?_eq_some_iff.mp hfee
  have hsum := netOfRate?_eq_some_iff.mp hnet
  omega

/-- Up to the whole there is a fee, and something is left or nothing. -/
theorem exists_netOfRate? (whole : rate.toNat ≤ wholeRate) :
    (∃ fee, ofRate? amount rate = some fee)
      ∧ ∃ net, netOfRate? amount rate = some net := by
  have hmul : amount.toNat * rate.toNat ≤ wholeRate * amount.toNat := by
    rw [Nat.mul_comm]
    exact Nat.mul_le_mul_right _ whole
  have hle : amount.toNat * rate.toNat / wholeRate ≤ amount.toNat :=
    Nat.div_le_of_le_mul hmul
  have hrest : amount.toNat - amount.toNat * rate.toNat / wholeRate
      < amountLimit :=
    Nat.lt_of_le_of_lt (Nat.sub_le _ _) amount.toNat_lt
  have hnet : netOfRate? amount rate = some ⟨_, hrest⟩ :=
    netOfRate?_eq_some_iff.mpr (Nat.sub_add_cancel hle)
  obtain ⟨fee, hfee, -⟩ := Option.bind_eq_some_iff.mp hnet
  exact ⟨⟨fee, hfee⟩, _, hnet⟩

-- ============================================================ other amounts

/-- Where a product is no larger there is a fee too, and no larger one. -/
theorem exists_ofRate?_le (hfee : ofRate? amount rate = some fee)
    (less : Amount) (lower : UInt64)
    (hle : less.toNat * lower.toNat ≤ amount.toNat * rate.toNat) :
    ∃ fee', ofRate? less lower = some fee' ∧ fee' ≤ fee := by
  have hfloor : less.toNat * lower.toNat / wholeRate ≤ fee.toNat := by
    rw [← ofRate?_eq_some_iff.mp hfee]
    exact Nat.div_le_div_right hle
  exact ⟨⟨_, Nat.lt_of_le_of_lt hfloor fee.toNat_lt⟩,
    ofRate?_eq_some_iff.mpr rfl, hfloor⟩

/-- A smaller amount or a lower rate never makes a fee larger, nor does it make
one fail. -/
theorem ofRate?_mono {less : Amount} {lower : UInt64}
    (hamount : less ≤ amount) (hrate : lower ≤ rate)
    (hfee : ofRate? amount rate = some fee) :
    ∃ fee', ofRate? less lower = some fee' ∧ fee' ≤ fee :=
  exists_ofRate?_le hfee less lower
    (Nat.mul_le_mul hamount (UInt64.le_iff_toNat_le.mp hrate))

/-- Two parts have fees where the whole has one, and at most one unit is
lost between them. -/
theorem ofRate?_split {part rest : Amount}
    (hsum : part.toNat + rest.toNat = amount.toNat)
    (hfee : ofRate? amount rate = some fee) :
    ∃ first second, ofRate? part rate = some first
      ∧ ofRate? rest rate = some second
      ∧ first.toNat + second.toNat ≤ fee.toNat
      ∧ fee.toNat ≤ first.toNat + second.toNat + 1 := by
  have hproduct : part.toNat * rate.toNat + rest.toNat * rate.toNat
      = amount.toNat * rate.toNat := by
    rw [← Nat.add_mul, hsum]
  obtain ⟨first, hfirst, -⟩ := exists_ofRate?_le hfee part rate (by omega)
  obtain ⟨second, hsecond, -⟩ := exists_ofRate?_le hfee rest rate (by omega)
  have hvalue := ofRate?_eq_some_iff.mp hfee
  have hone := ofRate?_eq_some_iff.mp hfirst
  have htwo := ofRate?_eq_some_iff.mp hsecond
  simp only [wholeRate] at hvalue hone htwo
  exact ⟨first, second, hfirst, hsecond, by omega, by omega⟩

end

-- ================================================================ every rate

/-- At every rate: the fee is exact, and it faults where it is no amount;
the product it is cut off from is exact too. What is left faults where the
fee does or is more than the amount, and adds up with it where not. Up to
the whole nothing faults. A smaller amount or a lower rate has no larger
fee, and the fees of two parts are together the fee of the whole or one
unit less. -/
theorem fees_exact (amount : Amount) (rate : UInt64) :
    (∀ fee, ofRate? amount rate = some fee
        ↔ fee.toNat = amount.toNat * rate.toNat / 10000)
      ∧ (ofRate? amount rate = none
        ↔ 2 ^ 128 - 1 < amount.toNat * rate.toNat / 10000)
      ∧ (wideProduct amount rate).toNat = amount.toNat * rate.toNat
      ∧ (netOfRate? amount rate = none
        ↔ ofRate? amount rate = none
          ∨ ∃ fee, ofRate? amount rate = some fee ∧ amount < fee)
      ∧ (∀ fee net, ofRate? amount rate = some fee →
        netOfRate? amount rate = some net →
        fee.toNat + net.toNat = amount.toNat)
      ∧ (rate.toNat ≤ 10000 →
        (∃ fee, ofRate? amount rate = some fee)
          ∧ ∃ net, netOfRate? amount rate = some net)
      ∧ (∀ (less : Amount) (lower : UInt64) (fee : Amount), less ≤ amount →
        lower ≤ rate → ofRate? amount rate = some fee →
        ∃ fee', ofRate? less lower = some fee' ∧ fee' ≤ fee)
      ∧ ∀ part rest fee : Amount, part.toNat + rest.toNat = amount.toNat →
        ofRate? amount rate = some fee →
        ∃ first second, ofRate? part rate = some first
          ∧ ofRate? rest rate = some second
          ∧ first.toNat + second.toNat ≤ fee.toNat
          ∧ fee.toNat ≤ first.toNat + second.toNat + 1 := by
  refine ⟨fun fee => ?fee, ?fault, toNat_wideProduct amount rate,
    netOfRate?_eq_none_iff, fun fee net => add_net, exists_netOfRate?,
    fun less lower fee => ofRate?_mono, fun part rest fee => ofRate?_split⟩
  case fee => exact ofRate?_eq_some_iff.trans eq_comm
  case fault =>
    have hlimit : amountLimit = 2 ^ 128 := by decide
    rw [ofRate?_eq_none_iff]
    show amountLimit ≤ amount.toNat * rate.toNat / 10000 ↔ _
    omega

/-- A rate above the whole that nothing is left at, and a unit more that
faults. -/
example :
    netOfRate? ⟨9999, by decide⟩ 10001 = some .zero
      ∧ netOfRate? ⟨10000, by decide⟩ 10001 = none := by
  decide

end TokenBridge.Fee
