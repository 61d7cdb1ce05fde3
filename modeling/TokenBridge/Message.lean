/-
The messages the bridge takes.

`Setup` begins a bridge, `Request` is everything that may change it later,
and `Question` only looks. Chains, accounts and hashes come as bytes of any
number; whether there are enough of them is for the bridge to say.
-/
import TokenBridge.Registry
import TokenBridge.Receipt

namespace TokenBridge

/-- What a bridge is set up with. -/
structure Setup where
  admin : String
  operators : List String
  cancelers : List String
  thisChain : List UInt8
  nativeDenom : String
  feeRecipient : String
  standardRate : Option UInt64
  reviewWindow : Option UInt64
deriving DecidableEq

/-- The fee an operator puts on a withdrawal with the approval. -/
structure ApprovalFee where
  amount : Amount
  recipient : String
  /-- Take the fee out of the payout. -/
  deduct : Bool
deriving DecidableEq

/-- A transfer that somebody says was deposited on another chain. -/
structure Submission where
  srcChain : List UInt8
  srcAccount : List UInt8
  token : String
  recipient : String
  amount : Amount
  nonce : UInt64
  srcDecimals : UInt8
deriving DecidableEq

/-- New fee parameters; what is left out stays as it is. -/
structure FeeChange where
  standard : Option UInt64
  discounted : Option UInt64
  threshold : Option Amount
  discountToken : Option String
  recipient : Option String
deriving DecidableEq

/-- What a bridge is asked to do. -/
inductive Request
  /-- Deposit the one coin attached. -/
  | depositNative (destChain destAccount : List UInt8)
  /-- Deposit tokens of a contract, which the bridge will hold. -/
  | depositToken (token : String) (amount : Amount) (destChain destAccount : List UInt8)
  /-- Deposit tokens of a contract, which the bridge will burn. -/
  | depositMintable (token : String) (amount : Amount) (destChain destAccount : List UInt8)
  | submit (s : Submission)
  | approve (hash : List UInt8) (fee : Option ApprovalFee)
  | cancel (hash : List UInt8)
  | uncancel (hash : List UInt8)
  /-- Pay out a withdrawal of a token the bridge holds. -/
  | executeUnlock (hash : List UInt8)
  /-- Pay out a withdrawal of a token the bridge mints. -/
  | executeMint (hash : List UInt8)
  | setReviewWindow (seconds : UInt64)
  | addRole (role : Role) (account : String)
  | removeRole (role : Role) (account : String)
  | registerChain (identifier : String) (chain : List UInt8)
  | unregisterChain (chain : List UInt8)
  | addToken (token : String) (isNative : Bool) (kind : TokenKind) (decimals : UInt8)
  | setTokenEnabled (token : String) (enabled : Bool)
  | setCounterpart (token : String) (destChain destToken : List UInt8) (destDecimals : UInt8)
  | setFees (change : FeeChange)
  | setCustomRate (account : String) (rate : UInt64)
  | removeCustomRate (account : String)
  | pause
  | unpause
deriving DecidableEq

/-- Fields of a transfer whose hash is asked for. -/
structure HashQuestion where
  srcChain : List UInt8
  destChain : List UInt8
  srcAccount : List UInt8
  destAccount : List UInt8
  token : List UInt8
  amount : Amount
  nonce : UInt64
deriving DecidableEq

/-- What a bridge is asked to tell. -/
inductive Question
  | config
  | thisChain
  | reviewWindow
  | nextNonce
  | lastNonce
  | deposit (hash : List UInt8)
  | depositByNonce (nonce : UInt64)
  | withdrawal (hash : List UInt8)
  | transferHash (fields : HashQuestion)
  | fees
  | accountRate (account : String)
  | quote (depositor : String) (amount : Amount)
  | operators
  | cancelers
  | chain (id : List UInt8)
  | chains
  | token (id : String)
  | counterpart (token : String) (destChain : List UInt8)
  | lockedBalance (token : String)
deriving DecidableEq

end TokenBridge
