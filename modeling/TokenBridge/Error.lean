/-
Why the bridge refuses a message.

Each constructor is one cause, with what its text needs; the wording stands
in one place, `BridgeError.message`. `arithmetic` is not a refusal: a
checked calculation left its range, and the step is undone without a text.
-/
import TokenBridge.Account
import TokenBridge.Decimals
import TokenBridge.Fee
import TokenBridge.Registry
import TokenBridge.ReviewWindow

namespace TokenBridge

-- =================================================================== details

/-- What a token had to be for a message to apply to it. -/
inductive TokenDemand
  | nativeLocked
  | kind (k : TokenKind)
deriving DecidableEq

/-- The demand in words. -/
def TokenDemand.text : TokenDemand → String
  | .nativeLocked => "native lock_unlock"
  | .kind k => k.label

/-- What is wrong with an account or a token word. -/
inductive AddressFault
  /-- The account of a local address, in the words of its codec. -/
  | codec (cause : AccountError)
  | srcAccountLength (found : Nat)
  | srcAccount (cause : AccountError)
  | destTokenLength (found : Nat)
deriving DecidableEq

/-- The fault in words. -/
def AddressFault.text : AddressFault → String
  | .codec cause => cause.message
  | .srcAccountLength found => s!"src_account must be 32 bytes, got {found}"
  | .srcAccount cause => s!"src_account: {cause.message}"
  | .destTokenLength found => s!"dest_token must be 32 bytes, got {found}"

/-- What is wrong with attached coins, or with the coin the bridge is to use. -/
inductive FundsFault
  | noNativeDenom
  | severalCoins
  | coinsWithTokenDeposit
  | noFeeDue
  | unexpectedDenom (denom : String)
deriving DecidableEq

/-- The fault in words. -/
def FundsFault.text : FundsFault → String
  | .noNativeDenom => "native_denom must not be empty"
  | .severalCoins => "only one denom allowed per deposit"
  | .coinsWithTokenDeposit => "CW20 deposits do not accept native coins"
  | .noFeeDue => "no native fee due for this withdrawal"
  | .unexpectedDenom denom => s!"unexpected denom {denom}"

/-- Which side of a token movement was checked. -/
inductive MovementSide
  | lockThis
  | lockFrom
  | unlockTo
  | unlockThis
  | mintTo
  | burnFrom
deriving DecidableEq

-- ==================================================================== causes

/-- Why the bridge refuses. -/
inductive BridgeError
  | host (cause : HostError)
  | scaling (cause : ScalingOverflow)
  | unauthorized
  | unauthorizedOperator
  | notCanceler
  | roleAlreadyGranted (role : Role) (address : Address)
  | roleNotGranted (role : Role) (address : Address)
  | bridgePaused
  | invalidChainId (fault : ChainIdFault)
  | chainNotRegistered (chain : ChainId)
  | chainAlreadyRegistered (identifier : String)
  | tokenNotRegistered (token : String)
  | tokenAlreadyRegistered (token : String)
  | counterpartNotSet (token : String) (chain : ChainId)
  | wrongTokenType (token : String) (expected : TokenDemand)
  | invalidAmount (amount : Amount)
  | invalidDestAccount
  | invalidAddress (fault : AddressFault)
  /-- A hash must have thirty-two bytes, this one has another number. -/
  | invalidHash (found : Nat)
  | invalidFunds (fault : FundsFault)
  | decimalsMismatch (expected found : UInt8)
  | feeExceedsMax (given : UInt64)
  | invalidFeeRecipient
  | feeExceedsAmount (fee amount : Amount)
  | approvalNotNativePath
  | approvalRequiresNativePath
  | insufficientNativeValue (required sent : Amount)
  | withdrawNotFound (hash : Word)
  | withdrawAlreadySubmitted (hash : Word)
  | withdrawAlreadyApproved (hash : Word)
  | withdrawNotApproved (hash : Word)
  | withdrawCancelled (hash : Word)
  | withdrawNotCancelled (hash : Word)
  | withdrawAlreadyExecuted (hash : Word)
  | nonceAlreadyApproved (chain : ChainId) (nonce : UInt64)
  | cancelWindowExpired
  | cancelWindowActive (closesAt : UInt64)
  | cancelWindowOutOfBounds (given : UInt64)
  | wrongMovement (side : MovementSide) (expected found : Amount)
  | nativeTransferFailed (reason : String)
  | tokenCallFailed (reason : String)
  | custodyInProgress
  | unexpectedReply (id : UInt64)
  | insufficientLiquidity (token : String) (available requested : Amount)
  | arithmetic
deriving DecidableEq

-- =================================================================== wording

/-- What is wrong with a balance after a movement, in words. -/
def movementMessage : MovementSide → Amount → Amount → String
  | .lockThis, expected, found =>
    s!"Bridge received {found.toText} instead of {expected.toText} on lock"
  | .lockFrom, expected, found =>
    s!"Depositor sent {found.toText} instead of {expected.toText} on lock"
  | .unlockTo, expected, found =>
    s!"Recipient received {found.toText} instead of {expected.toText} on unlock"
  | .unlockThis, expected, found =>
    s!"Bridge released {found.toText} instead of {expected.toText} on unlock"
  | .mintTo, expected, found =>
    s!"Recipient received {found.toText} instead of {expected.toText} on mint"
  | .burnFrom, expected, found =>
    s!"Depositor burned {found.toText} instead of {expected.toText}"

/-- The words of a refusal; an arithmetic fault has none, nor do two causes of the host. -/
def BridgeError.message : BridgeError → Option String
  | .host cause => cause.message
  | .scaling cause => some cause.message
  | .unauthorized => some "Unauthorized: only admin can perform this action"
  | .unauthorizedOperator => some "Unauthorized: only operator can perform this action"
  | .notCanceler => some "Unauthorized: caller is not a canceler"
  | .roleAlreadyGranted role address => some s!"{role.label} already granted to {address}"
  | .roleNotGranted role address => some s!"{role.label} not granted to {address}"
  | .bridgePaused => some "Bridge is paused"
  | .invalidChainId fault => some s!"Invalid chain ID: {fault.message}"
  | .chainNotRegistered chain => some s!"Chain not registered: {chain.toHex}"
  | .chainAlreadyRegistered identifier => some s!"Chain already registered: {identifier}"
  | .tokenNotRegistered token => some s!"Token not registered: {token}"
  | .tokenAlreadyRegistered token => some s!"Token already registered: {token}"
  | .counterpartNotSet token chain =>
    some s!"No destination mapping for token {token} on chain {chain.toHex}"
  | .wrongTokenType token expected =>
    some s!"Wrong token type for {token}: expected {expected.text}"
  | .invalidAmount amount => some s!"Invalid amount: {amount.toText}"
  | .invalidDestAccount => some "Invalid destination account"
  | .invalidAddress fault => some s!"Invalid address: {fault.text}"
  | .invalidHash found => some s!"Invalid hash: expected 32 bytes, got {found}"
  | .invalidFunds fault => some s!"Invalid funds: {fault.text}"
  | .decimalsMismatch expected found =>
    some s!"Decimals mismatch: expected {expected.toNat}, got {found.toNat}"
  | .feeExceedsMax given =>
    some s!"Fee {given.toNat} bps exceeds max {Fee.maxRate.toNat} bps"
  | .invalidFeeRecipient => some "Invalid fee recipient"
  | .feeExceedsAmount fee amount =>
    some s!"Fee {fee.toText} exceeds withdraw amount {amount.toText}"
  | .approvalNotNativePath => some "Fee deduction is only allowed for native token withdrawals"
  | .approvalRequiresNativePath =>
    some "Native token withdrawals must deduct the fee from the amount"
  | .insufficientNativeValue required sent =>
    some s!"Insufficient native value: required {required.toText}, sent {sent.toText}"
  | .withdrawNotFound hash => some s!"Withdraw not found: {hash.toHex}"
  | .withdrawAlreadySubmitted hash => some s!"Withdraw already submitted: {hash.toHex}"
  | .withdrawAlreadyApproved hash => some s!"Withdraw already approved: {hash.toHex}"
  | .withdrawNotApproved hash => some s!"Withdraw not approved: {hash.toHex}"
  | .withdrawCancelled hash => some s!"Withdraw cancelled: {hash.toHex}"
  | .withdrawNotCancelled hash => some s!"Withdraw not cancelled: {hash.toHex}"
  | .withdrawAlreadyExecuted hash => some s!"Withdraw already executed: {hash.toHex}"
  | .nonceAlreadyApproved chain nonce =>
    some s!"Nonce {nonce.toNat} already approved for source chain {chain.toHex}"
  | .cancelWindowExpired => some "Cancel window expired"
  | .cancelWindowActive closesAt => some s!"Cancel window active until {closesAt.toNat}"
  | .cancelWindowOutOfBounds given =>
    some s!"Cancel window {given.toNat}s out of bounds [{ReviewWindow.minLength.toNat}, {ReviewWindow.maxLength.toNat}]"
  | .wrongMovement side expected found => some (movementMessage side expected found)
  | .nativeTransferFailed reason => some s!"Native transfer failed: {reason}"
  | .tokenCallFailed reason => some s!"Token call failed: {reason}"
  | .custodyInProgress => some "Custody transfer in progress"
  | .unexpectedReply id => some s!"Unexpected reply id: {id.toNat}"
  | .insufficientLiquidity token available requested =>
    some s!"Insufficient liquidity for {token}: available {available.toText}, requested {requested.toText}"
  | .arithmetic => none

/-- The answer to a message to the bridge: a refusal or a result. -/
abbrev Outcome (α : Type) := Except BridgeError α

/-- The refusal of the bridge for a fault in a fee schedule. -/
def BridgeError.ofFeeFault : Fee.Fault → BridgeError
  | .rateTooHigh given => .feeExceedsMax given
  | .noRecipient => .invalidFeeRecipient

/-- A step of the host as a step of the bridge. -/
def Outcome.ofHost {α : Type} (r : Except HostError α) : Outcome α := r.mapError .host

/-- What a calculation gave, or an arithmetic fault. -/
def Outcome.ofOption {α : Type} (r : Option α) : Outcome α :=
  match r with
  | some a => .ok a
  | none => .error .arithmetic

/-- A condition that must hold, or the refusal. -/
def require (condition : Bool) (otherwise : BridgeError) : Outcome Unit :=
  if condition then .ok () else .error otherwise

end TokenBridge
