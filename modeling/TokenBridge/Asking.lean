/-
What the bridge tells those who ask.

An answer reads the state and the context and changes neither. The quote of
a fee is the charge that a deposit of the same amount by the same account
would get now.
-/
import TokenBridge.Depositing
import TokenBridge.Reviewing

namespace TokenBridge

/-- How a withdrawal stands at a time. -/
structure WithdrawalReport where
  hash : Word
  withdrawal : Withdrawal
  status : Status
  /-- When its review window is over, zero before it is approved. -/
  closesAt : UInt64
deriving DecidableEq

/-- What the bridge answers. -/
inductive Answer
  | config (settings : Settings)
  | chainId (id : ChainId)
  | window (seconds : UInt64)
  | nonce (n : UInt64)
  | lastNonce (n : Option UInt64)
  | deposit (found : Option (Word × Deposit))
  | withdrawal (found : Option WithdrawalReport)
  | hash (w : Word)
  | fees (schedule : Fee.Schedule)
  | accountRate (account : Address) (rate : UInt64) (source : Fee.Source)
  | quote (depositor : Address) (amount : Amount) (charge : Charge)
  | accounts (members : List Address)
  | chain (found : Option Chain)
  | chains (all : List Chain)
  | token (found : Option Token)
  | counterpart (found : Option (String × ChainId × Counterpart))
  | amount (a : Amount)
deriving DecidableEq

/-- A field of a question, which must have so many bytes. -/
def fieldOf (n : Nat) (field : String) (bytes : List UInt8) : Outcome (Bytes n) :=
  match Bytes.ofList? n bytes with
  | some a => .ok a
  | none => .error (.host (.fieldLength field n bytes.length))

/-- The transfer with the fields of a question. -/
def HashQuestion.transfer (q : HashQuestion) : Outcome Transfer := do
  let srcChain ← fieldOf 4 "src_chain" q.srcChain
  let destChain ← fieldOf 4 "dest_chain" q.destChain
  let srcAccount ← fieldOf 32 "src_account" q.srcAccount
  let destAccount ← fieldOf 32 "dest_account" q.destAccount
  let token ← fieldOf 32 "token" q.token
  return { srcChain, destChain, srcAccount, destAccount, token,
           amount := q.amount, nonce := q.nonce }

namespace Bridge

/-- The nonce of the last deposit, if there has been one. -/
def lastNonce (b : Bridge) : Outcome (Option UInt64) := do
  let next ← b.loadNextNonce
  return if 1 < next then some (next - 1) else none

/-- The deposit with a nonce, under the hash the log has for it. -/
def depositWithNonce (b : Bridge) (nonce : UInt64) : Outcome (Option (Word × Deposit)) :=
  match b.depositByNonce.get? nonce with
  | none => .ok none
  | some hash =>
    match b.deposits.get? hash with
    | none => .error (.host .notStored)
    | some d => .ok (some (hash, d))

/-- A withdrawal with its status at this moment, and the end of its window. -/
def reportOf (b : Bridge) (c : Context) (hash : Word) : Outcome (Option WithdrawalReport) :=
  match b.withdrawals.get? hash with
  | none => .ok none
  | some w => do
    let settings ← b.loadSettings
    let window := settings.reviewWindow
    let closesAt :=
      if w.marks.approved then ReviewWindow.closesAt w.marks.approvedAt window else 0
    return some { hash, withdrawal := w, status := w.marks.status window c.now, closesAt }

/-- Answers a question. -/
def ask (b : Bridge) (c : Context) : Question → Outcome Answer
  | .config => do
    let settings ← b.loadSettings
    return .config settings
  | .thisChain => do
    let settings ← b.loadSettings
    return .chainId settings.thisChain
  | .reviewWindow => do
    let settings ← b.loadSettings
    return .window settings.reviewWindow
  | .nextNonce => do
    let next ← b.loadNextNonce
    return .nonce next
  | .lastNonce => do
    let last ← b.lastNonce
    return .lastNonce last
  | .deposit hash => do
    let hash ← fieldOf 32 "hash" hash
    return .deposit ((b.deposits.get? hash).map fun d => (hash, d))
  | .depositByNonce nonce => do
    let found ← b.depositWithNonce nonce
    return .deposit found
  | .withdrawal hash => do
    let hash ← fieldOf 32 "hash" hash
    let found ← b.reportOf c hash
    return .withdrawal found
  | .transferHash fields => do
    let transfer ← fields.transfer
    return .hash transfer.hash
  | .fees => do
    let settings ← b.loadSettings
    return .fees settings.fees
  | .accountRate account => do
    let account ← checkAddress account
    let settings ← b.loadSettings
    let (rate, source) ← b.rateOf c settings.fees account
    return .accountRate account rate source
  | .quote depositor amount => do
    let depositor ← checkAddress depositor
    let settings ← b.loadSettings
    let charge ← b.charge c settings.fees depositor amount
    return .quote depositor amount charge
  | .operators => .ok (.accounts b.operators.members)
  | .cancelers => .ok (.accounts b.cancelers.members)
  | .chain id => do
    let id ← fieldOf 4 "chain_id" id
    return .chain (b.chains.get? id)
  | .chains => .ok (.chains b.chains.values)
  | .token id => .ok (.token (b.tokens.get? id))
  | .counterpart token destChain => do
    let chain ← fieldOf 4 "dest_chain" destChain
    return .counterpart
      ((b.counterparts.get? (token, chain)).map fun found => (token, chain, found))
  | .lockedBalance token => .ok (.amount (b.lockedBalance token))

end Bridge

end TokenBridge
