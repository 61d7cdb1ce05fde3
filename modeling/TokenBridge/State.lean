/-
The whole memory of the bridge, and what every message may read and write of it.

The settings come into being together, when the bridge is set up, and are
there from then on. Deposits and withdrawals are kept under their transfer
hash. A claim holds a source chain and nonce for the one withdrawal that is
approved and not vetoed. `inFlight` is the token movement that has been
sent and not yet checked; there is at most one.
-/
import TokenBridge.Error
import TokenBridge.Receipt
import TokenBridge.Withdrawal

namespace TokenBridge

-- ================================================================== movements

/-- What a token movement does. -/
inductive MovementKind
  | lock
  | unlock
  | mint
  | burn
deriving DecidableEq

/-- The name of a movement in what is told of it. -/
def MovementKind.label : MovementKind → String
  | .lock => "lock"
  | .unlock => "unlock"
  | .mint => "mint"
  | .burn => "burn"

/-- A token movement and what the balances were before it. -/
structure Movement where
  kind : MovementKind
  token : Token
  /-- Who gives the tokens on lock and burn, who gets them on unlock and mint. -/
  account : Address
  amount : Amount
  thisBefore : Amount
  accountBefore : Amount
deriving DecidableEq

-- =================================================================== the state

/-- What is chosen when the bridge is set up; the administrator changes some of it later. -/
structure Settings where
  admin : Address
  paused : Bool
  thisChain : ChainId
  /-- The coin for tips and for fees that the caller pays. -/
  nativeDenom : String
  /-- The length of the review window, in seconds. -/
  reviewWindow : UInt64
  fees : Fee.Schedule
deriving DecidableEq

/-- The name and the number of the program that wrote the state. -/
structure Version where
  program : String
  number : String
deriving DecidableEq

/-- The contract and version that a bridge starts with. -/
def Version.current : Version := ⟨"crates.io:xchain-bridge", "0.1.0"⟩

/-- All that a bridge stores. -/
structure Bridge where
  version : Option Version
  settings : Option Settings
  /-- The nonce of the next deposit. -/
  nextNonce : Option UInt64
  operators : RoleSet
  cancelers : RoleSet
  chains : Table ChainId Chain
  chainByIdentifier : Table String ChainId
  tokens : Table String Token
  counterparts : Table (String × ChainId) Counterpart
  customRates : Table Address Fee.CustomRate
  /-- How much of each token the bridge holds for accounts on other chains. -/
  locked : Table String Amount
  deposits : Table Word Deposit
  depositByNonce : Table UInt64 Word
  withdrawals : Table Word Withdrawal
  claims : Table (ChainId × UInt64) Unit
  inFlight : Option Movement
deriving DecidableEq

namespace Bridge

/-- Nothing stored. -/
def blank : Bridge where
  version := none
  settings := none
  nextNonce := none
  operators := RoleSet.empty
  cancelers := RoleSet.empty
  chains := Table.empty
  chainByIdentifier := Table.empty
  tokens := Table.empty
  counterparts := Table.empty
  customRates := Table.empty
  locked := Table.empty
  deposits := Table.empty
  depositByNonce := Table.empty
  withdrawals := Table.empty
  claims := Table.empty
  inFlight := none

/-- The settings, once the bridge is set up. -/
def loadSettings (b : Bridge) : Outcome Settings :=
  match b.settings with
  | some s => .ok s
  | none => .error (.host .notStored)

/-- The nonce of the next deposit, once the bridge is set up. -/
def loadNextNonce (b : Bridge) : Outcome UInt64 :=
  match b.nextNonce with
  | some n => .ok n
  | none => .error (.host .notStored)

/-- The accounts with a role. -/
def role (b : Bridge) : Role → RoleSet
  | .operator => b.operators
  | .canceler => b.cancelers

/-- The bridge with the accounts of a role replaced. -/
def setRole (b : Bridge) (role : Role) (set : RoleSet) : Bridge :=
  match role with
  | .operator => { b with operators := set }
  | .canceler => { b with cancelers := set }

-- ===================================================================== guards

/-- Only the administrator may go on; the settings come with the permission. -/
def requireAdmin (b : Bridge) (sender : Address) : Outcome Settings := do
  let settings ← b.loadSettings
  require (sender = settings.admin) .unauthorized
  return settings

/-- Only operators may go on. -/
def requireOperator (b : Bridge) (sender : Address) : Outcome Unit :=
  require (b.operators.contains sender) .unauthorizedOperator

/-- Only cancelers may go on. -/
def requireCanceler (b : Bridge) (sender : Address) : Outcome Unit :=
  require (b.cancelers.contains sender) .notCanceler

/-- No token movement waits to be checked. -/
def requireIdle (b : Bridge) : Outcome Unit :=
  require b.inFlight.isNone .custodyInProgress

-- ===================================================================== roles

/-- Gives an account the next place in a role. -/
def grantRole (b : Bridge) (role : Role) (account : Address) : Outcome Bridge := do
  let set := b.role role
  require (!set.contains account) (.roleAlreadyGranted role account)
  let set ← Outcome.ofOption (set.grant? account)
  return b.setRole role set

/-- Takes an account out of a role. -/
def revokeRole (b : Bridge) (role : Role) (account : Address) : Outcome Bridge := do
  let set := b.role role
  require (set.contains account) (.roleNotGranted role account)
  return b.setRole role (set.revoke account)

-- =================================================================== look-ups

/-- A chain is known by its id. -/
def isChainRegistered (b : Bridge) (chain : ChainId) : Bool := b.chains.contains chain

/-- A chain that is not known is refused. -/
def requireChain (b : Bridge) (chain : ChainId) : Outcome Unit :=
  require (b.isChainRegistered chain) (.chainNotRegistered chain)

/-- The chain that bytes name, if it is registered. -/
def registeredChain (b : Bridge) (bytes : List UInt8) : Outcome ChainId := do
  let chain ← (ChainId.ofBytes bytes).mapError .invalidChainId
  b.requireChain chain
  return chain

/-- A token that is registered and enabled. -/
def loadToken (b : Bridge) (token : String) : Outcome Token :=
  match b.tokens.get? token with
  | some entry => if entry.enabled then .ok entry else .error (.tokenNotRegistered token)
  | none => .error (.tokenNotRegistered token)

/-- What a token is on another chain. -/
def loadCounterpart (b : Bridge) (token : String) (chain : ChainId) : Outcome Counterpart :=
  match b.counterparts.get? (token, chain) with
  | some c => .ok c
  | none => .error (.counterpartNotSet token chain)

-- ======================================================================= rates

/-- An account's own rate, not set where nothing is kept for it. -/
def customRate (b : Bridge) (account : Address) : Fee.CustomRate :=
  (b.customRates.get? account).getD .unset

/-- Stores a rate for an account, and that it is set. -/
def setCustomRate (b : Bridge) (account : Address) (rate : UInt64) : Outcome Bridge := do
  (Fee.checkRate rate).mapError BridgeError.ofFeeFault
  return { b with customRates := b.customRates.insert account ⟨rate, true⟩ }

/-- Forgets the rate of an account. -/
def removeCustomRate (b : Bridge) (account : Address) : Bridge :=
  { b with customRates := b.customRates.erase account }

-- ============================================================ locked balances

/-- How much of a token is locked, nothing where nothing was written. -/
def lockedBalance (b : Bridge) (token : String) : Amount :=
  (b.locked.get? token).getD Amount.zero

/-- Locks more of a token; the new balance comes along. -/
def increaseLocked (b : Bridge) (token : String) (amount : Amount) : Outcome (Amount × Bridge) :=
  match (b.lockedBalance token).add? amount with
  | some total => .ok (total, { b with locked := b.locked.insert token total })
  | none => .error (.host (.sumTooLarge (b.lockedBalance token) amount))

/-- Unlocks some of a token; what is left comes along. -/
def decreaseLocked (b : Bridge) (token : String) (amount : Amount) : Outcome (Amount × Bridge) :=
  match (b.lockedBalance token).sub? amount with
  | some left => .ok (left, { b with locked := b.locked.insert token left })
  | none => .error (.insufficientLiquidity token (b.lockedBalance token) amount)

end Bridge

end TokenBridge
