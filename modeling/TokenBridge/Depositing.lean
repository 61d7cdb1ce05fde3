/-
Transfers that leave this chain.

A deposit names a destination and brings tokens. The bridge charges the
depositor's rate, gives the transfer the next nonce, records it under its
hash, and takes the rest into custody; the fee goes to its recipient after
that. For coins nothing has to be fetched, so the fee is paid out of what
came with the message; for tokens of a contract both the fee and the rest
are drawn from the depositor.
-/
import TokenBridge.Custody
import TokenBridge.Message
import TokenBridge.Transfer

namespace TokenBridge

-- ============================================================== what is brought

/-- The one coin that came with a message. -/
def singleCoin : List Coin → Outcome Coin
  | [] => .error (.invalidAmount Amount.zero)
  | [coin] => .ok coin
  | _ => .error (.invalidFunds .severalCoins)

/-- A coin the bridge holds while it is away. -/
def Bridge.depositableCoin (b : Bridge) (denom : String) : Outcome Token := do
  let token ← b.loadToken denom
  require (token.isNative && token.kind = .lockUnlock) (.wrongTokenType token.id .nativeLocked)
  return token

/-- A token of a contract, of the kind a message is for. -/
def Bridge.depositableToken (b : Bridge) (funds : List Coin) (id : String) (kind : TokenKind) :
    Outcome Token := do
  require funds.isEmpty (.invalidFunds .coinsWithTokenDeposit)
  let token ← b.loadToken id
  require (!token.isNative && token.kind = kind) (.wrongTokenType token.id (.kind kind))
  return token

/-- An account on another chain: a word that a chain accepts. -/
def destAccountOf (bytes : List UInt8) : Outcome Word :=
  match Bytes.ofList? 32 bytes with
  | none => .error .invalidDestAccount
  | some w =>
    match Account.ofWordStrict w with
    | .ok _ => .ok w
    | .error _ => .error .invalidDestAccount

-- ===================================================================== the fee

/-- The rate an account pays for a deposit. -/
def Bridge.rateOf (b : Bridge) (c : Context) (fees : Fee.Schedule) (account : Address) :
    Outcome (UInt64 × Fee.Source) :=
  Outcome.ofHost <| fees.rateFor (b.customRate account) fun token =>
    c.bank.tokenBalance token account

/-- A fee and what is left after it. -/
structure Charge where
  rate : UInt64
  source : Fee.Source
  fee : Amount
  net : Amount
deriving DecidableEq

/-- What an account is charged for a deposit of an amount. -/
def Bridge.charge (b : Bridge) (c : Context) (fees : Fee.Schedule) (account : Address)
    (amount : Amount) : Outcome Charge := do
  let (rate, source) ← b.rateOf c fees account
  let fee ← Outcome.ofOption (Fee.ofRate? amount rate)
  let net ← Outcome.ofOption (amount.sub? fee)
  return ⟨rate, source, fee, net⟩

/-- Sends the fee to its recipient, out of what the depositor brought or allowed. -/
def feeMessage (token : Token) (depositor recipient : Address) (fee : Amount) : Outgoing :=
  if token.isNative then .send recipient (coins fee token.id)
  else .call token.id (.transferFrom depositor recipient fee)

-- ==================================================================== recording

/-- The transfer that a deposit record stands for. -/
def Deposit.transfer (d : Deposit) (thisChain : ChainId) : Transfer where
  srcChain := thisChain
  destChain := d.destChain
  srcAccount := d.srcAccount
  destAccount := d.destAccount
  token := d.destToken
  amount := d.amount
  nonce := d.nonce

/-- Writes a deposit into the log, under its hash and its nonce. -/
def Bridge.recordDeposit (b : Bridge) (hash : Word) (d : Deposit) : Bridge :=
  { b with
    nextNonce := some (d.nonce + 1)
    deposits := b.deposits.insert hash d
    depositByNonce := b.depositByNonce.insert d.nonce hash }

/-- Locks more of a token that the bridge holds; of one it burns there is nothing to lock. -/
def Bridge.lockFor (b : Bridge) (token : Token) (amount : Amount) : Outcome Bridge :=
  match token.kind with
  | .lockUnlock => (b.increaseLocked token.id amount).map Prod.snd
  | .mintBurn => .ok b

/-- Takes custody of an amount, with the message that fetches it if one is needed. -/
def Bridge.takeCustody (b : Bridge) (c : Context) (token : Token) (owner : Address)
    (amount : Amount) : Outcome (List Dispatch × Bridge) := do
  match ← Custody.take token.kind c token owner amount with
  | none => return ([], b)
  | some custody => do
    let (message, b) ← b.dispatch custody
    return ([message], b)

/-- A deposit of an amount of a token. -/
def Bridge.deposit (b : Bridge) (c : Context) (depositor : Address) (token : Token)
    (amount : Amount) (destChain destAccount : List UInt8) : Outcome (Receipt × Bridge) := do
  let settings ← b.loadSettings
  require (!settings.paused) .bridgePaused
  require (!amount.isZero) (.invalidAmount amount)
  let destChain ← b.registeredChain destChain
  let counterpart ← b.loadCounterpart token.id destChain
  let destAccount ← destAccountOf destAccount
  let srcAccount ← localAccount depositor
  let charge ← b.charge c settings.fees depositor amount
  let nonce ← b.loadNextNonce
  require (nonce ≠ maxWord64) .arithmetic
  let record : Deposit :=
    { nonce, srcAccount, destChain, destAccount, destToken := counterpart.token,
      token := token.id, amount := charge.net, fee := charge.fee, timestamp := c.now }
  let hash := (record.transfer settings.thisChain).hash
  let b ← (b.recordDeposit hash record).lockFor token charge.net
  let (custodyMessages, b) ← b.takeCustody c token depositor charge.net
  let feeMessages :=
    if charge.fee.isZero then []
    else [.plain (feeMessage token depositor settings.fees.recipient charge.fee)]
  return (⟨[("method", "deposit"),
      ("transfer_hash", hash.toHex),
      ("nonce", word64Text nonce),
      ("src_account", srcAccount.toHex),
      ("dest_chain", destChain.toHex),
      ("dest_token", counterpart.token.toHex),
      ("dest_account", destAccount.toHex),
      ("token", token.id),
      ("amount", charge.net.toText),
      ("fee", charge.fee.toText),
      ("fee_type", charge.source.label)],
    custodyMessages ++ feeMessages⟩, b)

-- ================================================================ the messages

/-- Deposits the one coin that is attached. -/
def Bridge.depositNative (b : Bridge) (c : Context) (sender : Address) (funds : List Coin)
    (destChain destAccount : List UInt8) : Outcome (Receipt × Bridge) := do
  let coin ← singleCoin funds
  let token ← b.depositableCoin coin.denom
  b.deposit c sender token coin.amount destChain destAccount

/-- Deposits tokens of a contract, which come without coins. -/
def Bridge.depositContractToken (b : Bridge) (c : Context) (sender : Address) (funds : List Coin)
    (kind : TokenKind) (id : String) (amount : Amount) (destChain destAccount : List UInt8) :
    Outcome (Receipt × Bridge) := do
  let token ← b.depositableToken funds id kind
  b.deposit c sender token amount destChain destAccount

end TokenBridge
