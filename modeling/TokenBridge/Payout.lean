/-
Paying out a withdrawal.

Once the review window is over anybody may have a withdrawal paid out. The
amount goes to the recipient in units of this chain. The operator's fee, if
there is one, comes out of it (coins), or is paid by the caller in the
bridge's coin (tokens of a contract), who may attach more but not less; all
that is attached goes to the recipient of the fee. Where no fee is due,
nothing may be attached.
-/
import TokenBridge.Custody
import TokenBridge.Reviewing

namespace TokenBridge

-- =============================================================== who gets what

/-- A withdrawal that may be paid out now. -/
def Bridge.payable (b : Bridge) (c : Context) (hash : Word) : Outcome Withdrawal := do
  let w ← b.loadWithdrawal hash
  require (!w.marks.executed) (.withdrawAlreadyExecuted hash)
  require w.marks.approved (.withdrawNotApproved hash)
  require (!w.marks.cancelled) (.withdrawCancelled hash)
  let settings ← b.loadSettings
  let window := settings.reviewWindow
  require (!ReviewWindow.isOpen w.marks.approvedAt window c.now)
    (.cancelWindowActive (ReviewWindow.closesAt w.marks.approvedAt window))
  return w

/-- The fee that comes out of the payout. -/
def Withdrawal.deductedFee (w : Withdrawal) : Amount :=
  if w.deductFee then w.fee else Amount.zero

/-- The fee that the caller pays: all that was attached, where a fee is due. -/
def Withdrawal.callerFee (w : Withdrawal) (attached : Amount) : Outcome Amount :=
  if w.deductFee || w.fee.isZero then do
    require attached.isZero (.invalidFunds .noFeeDue)
    return Amount.zero
  else do
    require (w.fee ≤ attached) (.insufficientNativeValue w.fee attached)
    return attached

/-- The coins that the recipient of the fee gets. -/
def feeCoins (token : Token) (denom : String) (deducted caller : Amount) : List Coin :=
  if !deducted.isZero then coins deducted token.id
  else if !caller.isZero then coins caller denom
  else []

/-- The message that pays a fee, if there is one to pay and somebody to get it. -/
def feeMessages (recipient : Option Address) (paid : List Coin) : List Dispatch :=
  match recipient, paid with
  | some recipient, coin :: rest => [.plain (.send recipient (coin :: rest))]
  | _, _ => []

-- ================================================================== the payout

/-- Takes a payout off the locked balance; tokens that are minted were never locked. -/
def Bridge.unlockFor (b : Bridge) (kind : TokenKind) (token : Token) (amount : Amount) :
    Outcome Bridge :=
  match kind with
  | .lockUnlock => (b.decreaseLocked token.id amount).map Prod.snd
  | .mintBurn => .ok b

/-- Gives an amount out of custody to the recipient, unless it is nothing. -/
def Bridge.releaseCustody (b : Bridge) (c : Context) (token : Token) (recipient : Address)
    (amount : Amount) : Outcome (List Dispatch × Bridge) :=
  if amount.isZero then .ok ([], b)
  else do
    let custody ← Custody.release token.kind c token recipient amount
    let (message, b) ← b.dispatch custody
    return ([message], b)

/-- Pays out a withdrawal of a token of one kind. -/
def Bridge.execute (b : Bridge) (c : Context) (funds : List Coin) (kind : TokenKind)
    (hash : List UInt8) : Outcome (Receipt × Bridge) := do
  let settings ← b.loadSettings
  require (!settings.paused) .bridgePaused
  let hash ← hashOf hash
  let w ← b.payable c hash
  let token ← b.loadToken w.token
  require (token.kind = kind) (.wrongTokenType token.id (.kind kind))
  let payout ← w.payout
  let deducted := w.deductedFee
  let toRecipient ← Outcome.ofOption (payout.sub? deducted)
  let attached ← nativeFunds settings.nativeDenom Amount.zero funds
  let callerFee ← w.callerFee attached
  let b ← b.unlockFor kind token payout
  let paid := { w with marks := { w.marks with executed := true } }
  let b := { b with withdrawals := b.withdrawals.insert hash paid }
  let (custodyMessages, b) ← b.releaseCustody c token w.recipient toRecipient
  let fee ← Outcome.ofOption (deducted.add? callerFee)
  return (⟨[("method", "withdraw_execute"),
      ("custody", kind.label),
      ("withdraw_hash", hash.toHex),
      ("recipient", w.recipient),
      ("token", w.token),
      ("amount", toRecipient.toText),
      ("fee", fee.toText)],
    custodyMessages ++
      feeMessages w.feeRecipient (feeCoins token settings.nativeDenom deducted callerFee)⟩, b)

end TokenBridge
