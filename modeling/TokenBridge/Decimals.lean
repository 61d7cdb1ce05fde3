/-
Amounts on chains that count a token in different units.

A token with more decimals has smaller units, so an amount grows by powers
of ten on the way up and is cut off on the way down. Growing is refused
when the factor or the result is no amount any more, so a gap of 39 decimals
or more is refused even for nothing. What cutting drops is lost, and a
factor that is no amount cuts every amount off to nothing.
-/
import TokenBridge.Amount

namespace TokenBridge

/-- An amount that has no counterpart in the smaller units asked for. -/
structure ScalingOverflow where
  amount : Amount
  src : UInt8
  dest : UInt8
deriving DecidableEq

def ScalingOverflow.message (e : ScalingOverflow) : String :=
  s!"Decimal scaling overflow: {e.amount.toText} from {e.src.toNat} to {e.dest.toNat} decimals"

/-- How many small units there are in one that has this many decimals less, if that is an
amount. -/
def unitFactor? (decimals : UInt8) : Option Amount :=
  Amount.ofNat? (Nat.pow 10 decimals.toNat)

/-- An amount counted with `src` decimals, counted with `dest` decimals. -/
def rescale (amount : Amount) (src dest : UInt8) : Except ScalingOverflow Amount :=
  if src = dest then
    .ok amount
  else if src < dest then
    match (unitFactor? (dest - src)).bind fun factor =>
        Amount.ofNat? (amount.toNat * factor.toNat) with
    | some scaled => .ok scaled
    | none => .error ⟨amount, src, dest⟩
  else
    match unitFactor? (src - dest) with
    | some factor => .ok ⟨amount.toNat / factor.toNat,
        Nat.lt_of_le_of_lt (Nat.div_le_self _ _) amount.toNat_lt⟩
    | none => .ok .zero

end TokenBridge
