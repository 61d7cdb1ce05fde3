/-
Deposits as they are recorded, and withdrawals on their way to the payout.

A deposit record never changes. A withdrawal is never removed: submitted,
then approved, perhaps vetoed and approved again, at last executed. Three
marks and the approval time say how far it is; `status` reads them against
the review window and the time.
-/
import TokenBridge.Bank
import TokenBridge.Bytes
import TokenBridge.ReviewWindow

namespace TokenBridge

/-- A transfer that left this chain. -/
structure Deposit where
  nonce : UInt64
  srcAccount : Word
  destChain : ChainId
  destAccount : Word
  /-- The token as the destination chain knows it. -/
  destToken : Word
  /-- The token as this chain knows it. -/
  token : String
  /-- What is left after the fee; the amount that is hashed. -/
  amount : Amount
  fee : Amount
  timestamp : UInt64
deriving DecidableEq

/-- How far a withdrawal is. -/
inductive Status
  | submitted
  /-- Approved, and the review window is open. -/
  | approved
  | executable
  | cancelled
  | executed
deriving DecidableEq

def Status.label : Status → String
  | .submitted => "submitted"
  | .approved => "approved"
  | .executable => "executable"
  | .cancelled => "cancelled"
  | .executed => "executed"

/-- The marks on a withdrawal. -/
structure Marks where
  approved : Bool
  cancelled : Bool
  executed : Bool
  /-- When it was last approved, zero before. -/
  approvedAt : UInt64
deriving DecidableEq

/-- What marks mean at a time under a review window. -/
def Marks.status (m : Marks) (window now : UInt64) : Status :=
  if m.executed then .executed
  else if m.cancelled then .cancelled
  else if !m.approved then .submitted
  else if ReviewWindow.isOpen m.approvedAt window now then .approved
  else .executable

/-- A transfer that arrives on this chain. -/
structure Withdrawal where
  srcChain : ChainId
  srcAccount : Word
  destAccount : Word
  /-- The token as this chain knows it. -/
  token : String
  recipient : Address
  /-- In units of the source chain; the amount that is hashed. -/
  amount : Amount
  nonce : UInt64
  srcDecimals : UInt8
  destDecimals : UInt8
  /-- Coins attached by the submitter for the operator who approves. -/
  tip : Amount
  fee : Amount
  feeRecipient : Option Address
  /-- The fee is taken out of the payout. -/
  deductFee : Bool
  submittedAt : UInt64
  marks : Marks
deriving DecidableEq

/-- The source chain and nonce that only one live approval may hold. -/
def Withdrawal.claim (w : Withdrawal) : ChainId × UInt64 := (w.srcChain, w.nonce)

end TokenBridge
