/-
Deposit fees.

A rate is a number of basis points, ten thousand to the whole. Which rate
an account pays is settled in this order: a rate of its own, even a zero
one; the discounted rate, if a discount token is named and the account
holds at least the threshold of it; the standard rate. The balance is asked
for only where it can matter, so an account with its own rate deposits even
while the discount token does not answer.

The fee is cut off to whole units. The product that it is cut off from has
up to 192 bits, so it is taken in a wider word than amounts have. `ofRate?`
and `netOfRate?` say `none` where the result would leave the range of
amounts; rates the bridge accepts never do.
-/
import TokenBridge.Amount

namespace TokenBridge.Fee

-- ==================================================================== amounts

/-- Basis points in the whole. -/
def wholeRate : Nat := 10000

/-- The highest rate the bridge accepts, one in a hundred. -/
def maxRate : UInt64 := 100

/-- An amount times a rate, in 256 bits. -/
def wideProduct (amount : Amount) (rate : UInt64) : BitVec 256 :=
  BitVec.ofNat 256 amount.toNat * BitVec.ofNat 256 rate.toNat

/-- The fee on an amount at a rate. -/
def ofRate? (amount : Amount) (rate : UInt64) : Option Amount :=
  Amount.ofNat? (wideProduct amount rate / BitVec.ofNat 256 wholeRate).toNat

/-- What is left of an amount after the fee at a rate. -/
def netOfRate? (amount : Amount) (rate : UInt64) : Option Amount :=
  (ofRate? amount rate).bind amount.sub?

-- ====================================================================== rates

/-- The rates of the bridge and where the fees go. -/
structure Schedule where
  standard : UInt64
  discounted : UInt64
  /-- The discount token balance that earns the discounted rate. -/
  threshold : Amount
  /-- The discount token, if there is one. -/
  discountToken : Option String
  recipient : String
deriving DecidableEq

/-- The schedule of a new bridge. -/
def Schedule.initial (recipient : String) : Schedule where
  standard := 50
  discounted := 10
  threshold := ⟨100000000, by decide⟩
  discountToken := none
  recipient := recipient

/-- Why a schedule is refused. -/
inductive Fault
  | rateTooHigh (given : UInt64)
  | noRecipient
deriving DecidableEq

/-- A rate is at most the highest one. -/
def checkRate (rate : UInt64) : Except Fault Unit :=
  if maxRate < rate then .error (.rateTooHigh rate) else .ok ()

/-- Both rates are accepted ones and somebody receives the fees. -/
def Schedule.check (s : Schedule) : Except Fault Unit := do
  checkRate s.standard
  checkRate s.discounted
  if s.recipient.isEmpty then .error .noRecipient

/-- Which of the rates an account pays. -/
inductive Source
  | standard
  | discounted
  | custom
deriving DecidableEq

def Source.label : Source → String
  | .standard => "standard"
  | .discounted => "discounted"
  | .custom => "custom"

/-- What is kept of an account's own rate. A rate of zero that is set is one, a rate that is not
set is none. -/
structure CustomRate where
  rate : UInt64
  isSet : Bool
deriving DecidableEq

/-- What is read of an account for which nothing is kept. -/
def CustomRate.unset : CustomRate := ⟨0, false⟩

/-- The rate that an account pays, with what is kept of its own. `balance` answers how much of the
discount token the account holds. -/
def Schedule.rateFor {ε : Type} (s : Schedule) (custom : CustomRate)
    (balance : String → Except ε Amount) : Except ε (UInt64 × Source) :=
  if custom.isSet then .ok (custom.rate, .custom)
  else match s.discountToken with
    | none => .ok (s.standard, .standard)
    | some token =>
      match balance token with
      | .error e => .error e
      | .ok held =>
        if s.threshold ≤ held then .ok (s.discounted, .discounted)
        else .ok (s.standard, .standard)

end TokenBridge.Fee
