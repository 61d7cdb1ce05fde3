/-
Judging a withdrawal by the deposit it claims to come from.

The reviewer stands outside the bridge. It sees a withdrawal on its own
chain, asks the source chain for the deposit under the same hash, and
compares. A withdrawal is condemned on conclusive evidence only: its hash
does not fit its fields, the source has no such deposit, or the deposit
differs. What cannot be settled now, because the source is unknown or does
not answer, stays pending, so that a reviewer with missing sources never
vetoes an honest withdrawal.
-/
import TokenBridge.Codec.Hex
import TokenBridge.ReviewWindow
import TokenBridge.Table
import TokenBridge.Transfer

namespace TokenBridge.Reviewer

-- ================================================================ what is seen

/-- A withdrawal as it is seen on the chain it arrives on. -/
structure Sighting where
  hash : Word
  transfer : Transfer
  /-- When it was approved, zero before. -/
  approvedAt : UInt64
deriving DecidableEq

def Sighting.isApproved (s : Sighting) : Bool := s.approvedAt ≠ 0

/-- A deposit as its source chain reports it. -/
structure Evidence where
  hash : Word
  destChain : ChainId
  srcAccount : Word
  destAccount : Word
  token : Word
  amount : Amount
  nonce : UInt64
  /-- Which identity the hash is. -/
  version : HashVersion
deriving DecidableEq

/-- The answer of a source chain to a hash. -/
inductive Lookup
  | found (e : Evidence)
  | absent
  | unavailable
deriving DecidableEq

/-- The deposits of a chain, by hash. -/
abbrev Source := Word → Lookup

-- =================================================================== the verdict

/-- Why a withdrawal is condemned. -/
inductive Reason
  | otherChain (expected found : ChainId)
  | hashOfOtherFields (computed claimed : Word)
  | noDeposit
  | version (expected found : HashVersion)
  | hash (expected found : Word)
  | destChain (expected found : ChainId)
  | srcAccount
  | destAccount
  | token
  | amount (expected found : Amount)
  | nonce (expected found : UInt64)
deriving DecidableEq

def Reason.message : Reason → String
  | .otherChain expected found =>
    s!"Destination chain mismatch: expected {expected.toHex}, got {found.toHex}"
  | .hashOfOtherFields computed claimed =>
    s!"Hash does not match parameters. Expected {computed.toHex}, got {claimed.toHex}"
  | .noDeposit => "No deposit found with this hash on source chain"
  | .version expected found =>
    s!"Hash version mismatch: expected {expected.label}, got {found.label}"
  | .hash expected found => s!"Hash mismatch: expected {expected.toHex}, got {found.toHex}"
  | .destChain expected found =>
    s!"Destination chain mismatch: expected {expected.toHex}, got {found.toHex}"
  | .srcAccount => "Source account mismatch"
  | .destAccount => "Destination account mismatch"
  | .token => "Token mismatch"
  | .amount expected found => s!"Amount mismatch: expected {expected.toText}, got {found.toText}"
  | .nonce expected found => s!"Nonce mismatch: expected {expected.toNat}, got {found.toNat}"

inductive Verdict
  | valid
  | invalid (reason : Reason)
  | pending
deriving DecidableEq

/-- The first field in which a deposit differs from a withdrawal. A deposit of the older identity
backs no withdrawal, even under the same bytes. -/
def Evidence.mismatch? (e : Evidence) (s : Sighting) : Option Reason :=
  if e.version ≠ .unified then some (.version .unified e.version)
  else if e.hash ≠ s.hash then some (.hash s.hash e.hash)
  else if e.destChain ≠ s.transfer.destChain then
    some (.destChain s.transfer.destChain e.destChain)
  else if e.srcAccount ≠ s.transfer.srcAccount then some .srcAccount
  else if e.destAccount ≠ s.transfer.destAccount then some .destAccount
  else if e.token ≠ s.transfer.token then some .token
  else if e.amount ≠ s.transfer.amount then some (.amount s.transfer.amount e.amount)
  else if e.nonce ≠ s.transfer.nonce then some (.nonce s.transfer.nonce e.nonce)
  else none

/-- What a sighting shows by itself: it is for this chain, and its hash is that of its fields. -/
def Sighting.fault? (s : Sighting) (thisChain : ChainId) : Option Reason :=
  if s.transfer.destChain ≠ thisChain then some (.otherChain thisChain s.transfer.destChain)
  else if s.transfer.hash ≠ s.hash then some (.hashOfOtherFields s.transfer.hash s.hash)
  else none

/-- The verdict on a sighting that is in order by itself, by what its source answers. -/
def Sighting.judge (s : Sighting) : Lookup → Verdict
  | .unavailable => .pending
  | .absent => .invalid .noDeposit
  | .found e =>
    match e.mismatch? s with
    | some reason => .invalid reason
    | none => .valid

/-- What a canceler should do about an approved withdrawal. -/
inductive Decision
  | keep
  | cancel (reason : Reason)
  /-- It should have been vetoed, but the window is over. -/
  | windowClosed (reason : Reason)
  /-- Look again later. -/
  | retry
deriving DecidableEq

end TokenBridge.Reviewer
