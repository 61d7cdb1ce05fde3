/-
Transfers that arrive on this chain, up to the payout.

Anybody submits a transfer; what is recorded is fixed by its hash. An
operator approves it, perhaps with a fee, and the review window begins. A
canceler may veto it while the window is open, and an operator may reverse
the veto in the same time, which starts the window anew. Among withdrawals
with one source chain and nonce a single one can be approved and not
vetoed: it holds the claim, and a veto sets the claim free.
-/
import TokenBridge.Context
import TokenBridge.Message
import TokenBridge.State
import TokenBridge.Transfer

namespace TokenBridge

-- ==================================================================== reading

/-- A transfer hash as it comes with a message. -/
def hashOf (bytes : List UInt8) : Outcome Word :=
  match Bytes.ofList? 32 bytes with
  | some w => .ok w
  | none => .error (.invalidHash bytes.length)

/-- The account on the source chain that a submission names. -/
def srcAccountOf (bytes : List UInt8) : Outcome Word :=
  match Bytes.ofList? 32 bytes with
  | none => .error (.invalidAddress (.srcAccountLength bytes.length))
  | some w =>
    match Account.ofWordStrict w with
    | .ok _ => .ok w
    | .error e => .error (.invalidAddress (.srcAccount e))

/-- The sum of attached coins, which must all be the bridge's coin. -/
def nativeFunds (denom : String) : Amount → List Coin → Outcome Amount
  | total, [] => .ok total
  | total, coin :: rest =>
    if coin.denom ≠ denom then .error (.invalidFunds (.unexpectedDenom coin.denom))
    else match total.add? coin.amount with
      | some total => nativeFunds denom total rest
      | none => .error (.host (.sumTooLarge total coin.amount))

/-- A withdrawal by its hash. -/
def Bridge.loadWithdrawal (b : Bridge) (hash : Word) : Outcome Withdrawal :=
  match b.withdrawals.get? hash with
  | some w => .ok w
  | none => .error (.withdrawNotFound hash)

/-- The transfer that a withdrawal stands for. -/
def Withdrawal.transfer (w : Withdrawal) (thisChain : ChainId) : Transfer where
  srcChain := w.srcChain
  destChain := thisChain
  srcAccount := w.srcAccount
  destAccount := w.destAccount
  token := tokenWord w.token
  amount := w.amount
  nonce := w.nonce

/-- What a withdrawal pays out, in units of this chain. -/
def Withdrawal.payout (w : Withdrawal) : Outcome Amount :=
  (rescale w.amount w.srcDecimals w.destDecimals).mapError .scaling

-- ================================================================= submitting

/-- Puts a withdrawal on record for review; coins that come with it wait as a
tip. -/
def Bridge.submit (b : Bridge) (c : Context) (funds : List Coin) (s : Submission) :
    Outcome (Receipt × Bridge) := do
  let settings ← b.loadSettings
  require (!settings.paused) .bridgePaused
  require (!s.amount.isZero) (.invalidAmount s.amount)
  let srcChain ← b.registeredChain s.srcChain
  let srcAccount ← srcAccountOf s.srcAccount
  let recipient ← checkAddress s.recipient
  let destAccount ← localAccount recipient
  let token ← b.loadToken s.token
  let counterpart ← b.loadCounterpart s.token srcChain
  require (counterpart.decimals = s.srcDecimals)
    (.decimalsMismatch counterpart.decimals s.srcDecimals)
  let draft : Withdrawal :=
    { srcChain, srcAccount, destAccount, token := s.token, recipient, amount := s.amount,
      nonce := s.nonce, srcDecimals := s.srcDecimals, destDecimals := token.decimals,
      tip := Amount.zero, fee := Amount.zero, feeRecipient := none, deductFee := false,
      submittedAt := c.now, marks := ⟨false, false, false, 0⟩ }
  let hash := (draft.transfer settings.thisChain).hash
  require (!b.withdrawals.contains hash) (.withdrawAlreadySubmitted hash)
  let tip ← nativeFunds settings.nativeDenom Amount.zero funds
  let b := { b with withdrawals := b.withdrawals.insert hash { draft with tip } }
  return (.note
    [("method", "withdraw_submit"),
     ("withdraw_hash", hash.toHex),
     ("src_chain", srcChain.toHex),
     ("token", s.token),
     ("recipient", recipient),
     ("amount", s.amount.toText),
     ("nonce", word64Text s.nonce),
     ("operator_gas", tip.toText)], b)

-- ====================================================================== claims

/-- No live approval holds the source chain and nonce of a withdrawal. -/
def Bridge.requireUnclaimed (b : Bridge) (w : Withdrawal) : Outcome Unit :=
  require (!b.claims.contains w.claim) (.nonceAlreadyApproved w.srcChain w.nonce)

/-- Writes a withdrawal and takes its claim. -/
def Bridge.keepClaiming (b : Bridge) (hash : Word) (w : Withdrawal) : Bridge :=
  { b with
    withdrawals := b.withdrawals.insert hash w
    claims := b.claims.insert w.claim () }

/-- Writes a withdrawal and sets its claim free. -/
def Bridge.keepUnclaimed (b : Bridge) (hash : Word) (w : Withdrawal) : Bridge :=
  { b with
    withdrawals := b.withdrawals.insert hash w
    claims := b.claims.erase w.claim }

/-- The review window of a withdrawal is open. -/
def Bridge.requireOpenWindow (b : Bridge) (c : Context) (w : Withdrawal) : Outcome Unit := do
  let settings ← b.loadSettings
  require (ReviewWindow.isOpen w.marks.approvedAt settings.reviewWindow c.now) .cancelWindowExpired

-- =================================================================== approving

/-- Puts the operator's fee on a withdrawal. Coins bear it out of the payout, tokens of a
contract beside it. -/
def Bridge.withFee (b : Bridge) (w : Withdrawal) (fee : ApprovalFee) : Outcome Withdrawal := do
  let token ← b.loadToken w.token
  require (!(token.isNative && !fee.deduct)) .approvalRequiresNativePath
  require (!(!token.isNative && fee.deduct)) .approvalNotNativePath
  if fee.deduct then
    let payout ← w.payout
    require (fee.amount ≤ payout) (.feeExceedsAmount fee.amount payout)
  let recipient ← checkAddress fee.recipient
  return { w with fee := fee.amount, feeRecipient := some recipient, deductFee := fee.deduct }

/-- Approves a withdrawal, with or without a fee. It takes its claim, its
window begins, and the operator gets the tip. -/
def Bridge.approve (b : Bridge) (c : Context) (sender : Address) (hash : List UInt8)
    (fee : Option ApprovalFee) : Outcome (Receipt × Bridge) := do
  b.requireOperator sender
  let settings ← b.loadSettings
  let hash ← hashOf hash
  let w ← b.loadWithdrawal hash
  require (!w.marks.executed) (.withdrawAlreadyExecuted hash)
  require (!w.marks.approved) (.withdrawAlreadyApproved hash)
  b.requireUnclaimed w
  let w ← match fee with
    | none => pure w
    | some fee => b.withFee w fee
  let w := { w with marks := { w.marks with approved := true, approvedAt := c.now } }
  let tips :=
    if w.tip.isZero then [] else [.plain (.send sender (coins w.tip settings.nativeDenom))]
  return (⟨[("method", "withdraw_approve"),
      ("withdraw_hash", hash.toHex),
      ("operator", sender),
      ("approved_at", word64Text w.marks.approvedAt),
      ("fee", w.fee.toText)],
    tips⟩, b.keepClaiming hash w)

-- ====================================================================== vetoes

/-- Vetoes an approved withdrawal in its window, and gives its claim up. -/
def Bridge.cancel (b : Bridge) (c : Context) (sender : Address) (hash : List UInt8) :
    Outcome (Receipt × Bridge) := do
  b.requireCanceler sender
  let hash ← hashOf hash
  let w ← b.loadWithdrawal hash
  require (!w.marks.executed) (.withdrawAlreadyExecuted hash)
  require w.marks.approved (.withdrawNotApproved hash)
  require (!w.marks.cancelled) (.withdrawCancelled hash)
  b.requireOpenWindow c w
  let w := { w with marks := { w.marks with cancelled := true } }
  return (.note
    [("method", "withdraw_cancel"),
     ("withdraw_hash", hash.toHex),
     ("cancelled_by", sender)], b.keepUnclaimed hash w)

/-- Reverses a veto in the window. The withdrawal takes its claim again, and
its window begins anew. -/
def Bridge.uncancel (b : Bridge) (c : Context) (sender : Address) (hash : List UInt8) :
    Outcome (Receipt × Bridge) := do
  b.requireOperator sender
  let hash ← hashOf hash
  let w ← b.loadWithdrawal hash
  require (!w.marks.executed) (.withdrawAlreadyExecuted hash)
  require w.marks.cancelled (.withdrawNotCancelled hash)
  b.requireOpenWindow c w
  b.requireUnclaimed w
  let w := { w with marks := { w.marks with cancelled := false, approvedAt := c.now } }
  return (.note
    [("method", "withdraw_uncancel"),
     ("withdraw_hash", hash.toHex),
     ("new_approved_at", word64Text w.marks.approvedAt)], b.keepClaiming hash w)

end TokenBridge
