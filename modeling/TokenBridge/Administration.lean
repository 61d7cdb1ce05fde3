/-
What the administrator decides: the set-up of the bridge, who has a role,
the review window, chains, tokens and their counterparts, fees, the pause.

Every message here is for the administrator alone, and that is checked
before anything else. Chains can be taken off the registry, tokens cannot;
a token that should not be used any more is disabled.
-/
import TokenBridge.Context
import TokenBridge.Keccak
import TokenBridge.Message
import TokenBridge.State

namespace TokenBridge

-- ===================================================================== set-up

/-- A review window of an accepted length. -/
def checkWindow (seconds : UInt64) : Outcome Unit :=
  require (ReviewWindow.isValid seconds) (.cancelWindowOutOfBounds seconds)

/-- A fee schedule of accepted rates, with a recipient. -/
def checkFees (fees : Fee.Schedule) : Outcome Unit :=
  fees.check.mapError BridgeError.ofFeeFault

/-- Grants a role to accounts one after the other, each checked when its turn comes. -/
def Bridge.grantAll (b : Bridge) (role : Role) : List String → Outcome Bridge
  | [] => .ok b
  | text :: rest => do
    let account ← checkAddress text
    let b ← b.grantRole role account
    b.grantAll role rest

/-- Sets the bridge up. Nothing but the settings is touched, so a bridge that is set up again
keeps its registry, roles and transfers, and numbers deposits from one again. -/
def Bridge.setUp (b : Bridge) (s : Setup) : Outcome (Receipt × Bridge) := do
  let admin ← checkAddress s.admin
  let feeRecipient ← checkAddress s.feeRecipient
  let thisChain ← (ChainId.ofBytes s.thisChain).mapError .invalidChainId
  require (!s.nativeDenom.isEmpty) (.invalidFunds .noNativeDenom)
  let reviewWindow := s.reviewWindow.getD ReviewWindow.defaultLength
  checkWindow reviewWindow
  let initial := Fee.Schedule.initial feeRecipient
  let fees := { initial with standard := s.standardRate.getD initial.standard }
  checkFees fees
  let settings : Settings :=
    { admin, paused := false, thisChain, nativeDenom := s.nativeDenom, reviewWindow, fees }
  let b :=
    { b with version := some Version.current, settings := some settings, nextNonce := some 1 }
  let b ← b.grantAll .operator s.operators
  let b ← b.grantAll .canceler s.cancelers
  return (.note
    [("method", "instantiate"),
     ("admin", admin),
     ("operator_count", Nat.repr s.operators.length),
     ("canceler_count", Nat.repr s.cancelers.length),
     ("cancel_window", word64Text reviewWindow),
     ("this_chain_id", thisChain.toHex)], b)

/-- Marks the state as written by this version. -/
def Bridge.migrate (b : Bridge) : Receipt × Bridge :=
  (.note [("method", "migrate")], { b with version := some Version.current })

-- ============================================================ roles and window

/-- Grants a role to an account, which must not have it. -/
def Bridge.addRole (b : Bridge) (sender : Address) (role : Role) (account : String) :
    Outcome (Receipt × Bridge) := do
  let _ ← b.requireAdmin sender
  let account ← checkAddress account
  let b ← b.grantRole role account
  return (.note [("method", s!"add_{role.label}"), (role.label, account)], b)

/-- Takes a role from an account, which must have it. -/
def Bridge.removeRole (b : Bridge) (sender : Address) (role : Role) (account : String) :
    Outcome (Receipt × Bridge) := do
  let _ ← b.requireAdmin sender
  let account ← checkAddress account
  let b ← b.revokeRole role account
  return (.note [("method", s!"remove_{role.label}"), (role.label, account)], b)

/-- Changes the review window, also of withdrawals that are approved already. -/
def Bridge.setReviewWindow (b : Bridge) (sender : Address) (seconds : UInt64) :
    Outcome (Receipt × Bridge) := do
  let settings ← b.requireAdmin sender
  checkWindow seconds
  return (.note
    [("method", "set_cancel_window"), ("cancel_window_seconds", word64Text seconds)],
    { b with settings := some { settings with reviewWindow := seconds } })

/-- Sets or clears the flag that stops deposits, submissions and payouts. -/
def Bridge.setPaused (b : Bridge) (sender : Address) (paused : Bool) :
    Outcome (Receipt × Bridge) := do
  let settings ← b.requireAdmin sender
  return (.note [("method", if paused then "pause" else "unpause")],
    { b with settings := some { settings with paused } })

-- ===================================================================== chains

/-- Registers a chain under a name and an id that are both new. -/
def Bridge.registerChain (b : Bridge) (sender : Address) (identifier : String)
    (chain : List UInt8) : Outcome (Receipt × Bridge) := do
  let _ ← b.requireAdmin sender
  require (!identifier.isEmpty) (.invalidChainId .emptyIdentifier)
  let id ← (ChainId.ofBytes chain).mapError .invalidChainId
  require (!(b.chainByIdentifier.contains identifier || b.chains.contains id))
    (.chainAlreadyRegistered identifier)
  let identifierHash := keccak256 (utf8 identifier)
  return (.note
    [("method", "register_chain"),
     ("identifier", identifier),
     ("chain_id", id.toHex),
     ("identifier_hash", identifierHash.toHex)],
    { b with
      chains := b.chains.insert id { id, identifier, identifierHash }
      chainByIdentifier := b.chainByIdentifier.insert identifier id })

/-- Removes a chain, and its name with it. -/
def Bridge.unregisterChain (b : Bridge) (sender : Address) (chain : List UInt8) :
    Outcome (Receipt × Bridge) := do
  let _ ← b.requireAdmin sender
  let id ← (ChainId.ofBytes chain).mapError .invalidChainId
  match b.chains.get? id with
  | none => .error (.chainNotRegistered id)
  | some entry =>
    return (.note
      [("method", "unregister_chain"),
       ("identifier", entry.identifier),
       ("chain_id", id.toHex)],
      { b with
        chains := b.chains.erase id
        chainByIdentifier := b.chainByIdentifier.erase entry.identifier })

-- ===================================================================== tokens

/-- Registers a token, enabled. Coins can only be held, and any other token is
named by its contract's address. -/
def Bridge.addToken (b : Bridge) (sender : Address) (id : String) (isNative : Bool)
    (kind : TokenKind) (decimals : UInt8) : Outcome (Receipt × Bridge) := do
  let _ ← b.requireAdmin sender
  require (!b.tokens.contains id) (.tokenAlreadyRegistered id)
  require (!(isNative && kind ≠ .lockUnlock)) (.wrongTokenType id (.kind .lockUnlock))
  if !isNative then
    let _ ← checkAddress id
  return (.note
    [("method", "add_token"),
     ("token", id),
     ("token_type", kind.label),
     ("decimals", Nat.repr decimals.toNat)],
    { b with tokens := b.tokens.insert id { id, isNative, kind, decimals, enabled := true } })

/-- Enables or disables a token. -/
def Bridge.setTokenEnabled (b : Bridge) (sender : Address) (id : String) (enabled : Bool) :
    Outcome (Receipt × Bridge) := do
  let _ ← b.requireAdmin sender
  match b.tokens.get? id with
  | none => .error (.tokenNotRegistered id)
  | some entry =>
    return (.note
      [("method", "set_token_enabled"),
       ("token", id),
       ("enabled", if enabled then "true" else "false")],
      { b with tokens := b.tokens.insert id { entry with enabled } })

/-- Says what a token is on another chain. The token may be disabled, but must be known. -/
def Bridge.setCounterpart (b : Bridge) (sender : Address) (id : String)
    (destChain destToken : List UInt8) (destDecimals : UInt8) : Outcome (Receipt × Bridge) := do
  let _ ← b.requireAdmin sender
  require (b.tokens.contains id) (.tokenNotRegistered id)
  let chain ← b.registeredChain destChain
  match Bytes.ofList? 32 destToken with
  | none => .error (.invalidAddress (.destTokenLength destToken.length))
  | some token =>
    return (.note
      [("method", "set_token_destination"),
       ("token", id),
       ("dest_chain", chain.toHex),
       ("dest_token", token.toHex),
       ("dest_decimals", Nat.repr destDecimals.toNat)],
      { b with counterparts := b.counterparts.insert (id, chain) ⟨token, destDecimals⟩ })

-- ======================================================================= fees

/-- An address that may have been left out. -/
def checkOptional : Option String → Outcome (Option Address)
  | none => .ok none
  | some text => (checkAddress text).map some

/-- Changes the parts of the fees that are given, if what comes out is in its
bounds. -/
def Bridge.setFees (b : Bridge) (sender : Address) (change : FeeChange) :
    Outcome (Receipt × Bridge) := do
  let settings ← b.requireAdmin sender
  let old := settings.fees
  let discountToken ← checkOptional change.discountToken
  let recipient ← checkOptional change.recipient
  let fees : Fee.Schedule :=
    { standard := change.standard.getD old.standard
      discounted := change.discounted.getD old.discounted
      threshold := change.threshold.getD old.threshold
      discountToken := discountToken.or old.discountToken
      recipient := recipient.getD old.recipient }
  checkFees fees
  return (.note
    [("method", "set_fee_params"),
     ("standard_fee_bps", word64Text fees.standard),
     ("discounted_fee_bps", word64Text fees.discounted),
     ("cl8y_threshold", fees.threshold.toText),
     ("fee_recipient", fees.recipient)],
    { b with settings := some { settings with fees } })

/-- Gives an account a rate of its own. -/
def Bridge.setAccountRate (b : Bridge) (sender : Address) (account : String) (rate : UInt64) :
    Outcome (Receipt × Bridge) := do
  let _ ← b.requireAdmin sender
  let account ← checkAddress account
  let b ← b.setCustomRate account rate
  return (.note
    [("method", "set_custom_account_fee"),
     ("account", account),
     ("fee_bps", word64Text rate)], b)

/-- Puts an account back on the common rates. -/
def Bridge.removeAccountRate (b : Bridge) (sender : Address) (account : String) :
    Outcome (Receipt × Bridge) := do
  let _ ← b.requireAdmin sender
  let account ← checkAddress account
  return (.note [("method", "remove_custom_account_fee"), ("account", account)],
    b.removeCustomRate account)

end TokenBridge
