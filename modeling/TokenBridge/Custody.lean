/-
Token movements, and how the bridge makes sure they happened.

A deposit brings tokens under the custody of the bridge (`take`), a payout
gives them back (`release`). What that means depends on the token: coins
arrive with the message, tokens of a contract are moved by allowance, or
burned and minted. Before the message goes out the balances of the bridge
and of the other account are noted; when the host reports back they are
asked for again and must have changed by exactly the amount. A contract
that keeps a share, or answers freely, fails this check, and the whole
transaction is undone.

One movement is in flight at a time. While one is, the bridge takes no
other message.
-/
import TokenBridge.Context
import TokenBridge.State

namespace TokenBridge

/-- A message that moves tokens, and what will be checked when it is done. -/
structure Custody where
  message : Outgoing
  check : Movement
deriving DecidableEq

namespace Custody

-- ================================================================= the message

/-- A movement about to begin, with the balances as they are. -/
def note (c : Context) (kind : MovementKind) (token : Token) (account : Address)
    (amount : Amount) : Outcome Movement := do
  let thisBefore ← c.balance token c.self
  let accountBefore ← c.balance token account
  return ⟨kind, token, account, amount, thisBefore, accountBefore⟩

/-- Only tokens of a contract are burned and minted. -/
def requireContract (token : Token) : Outcome Unit :=
  require (!token.isNative) (.wrongTokenType token.id (.kind .lockUnlock))

/-- Takes tokens from an account; nothing to do for coins, which came with the message. -/
def take (kind : TokenKind) (c : Context) (token : Token) (owner : Address) (amount : Amount) :
    Outcome (Option Custody) :=
  match kind with
  | .lockUnlock =>
    if token.isNative then .ok none
    else do
      let check ← note c .lock token owner amount
      return some ⟨.call token.id (.transferFrom owner c.self amount), check⟩
  | .mintBurn => do
    requireContract token
    let check ← note c .burn token owner amount
    return some ⟨.call token.id (.burnFrom owner amount), check⟩

/-- Gives tokens to an account. -/
def release (kind : TokenKind) (c : Context) (token : Token) (recipient : Address)
    (amount : Amount) : Outcome Custody :=
  match kind with
  | .lockUnlock => do
    let message : Outgoing :=
      if token.isNative then .send recipient (coins amount token.id)
      else .call token.id (.transfer recipient amount)
    let check ← note c .unlock token recipient amount
    return ⟨message, check⟩
  | .mintBurn => do
    requireContract token
    let check ← note c .mint token recipient amount
    return ⟨.call token.id (.mint recipient amount), check⟩

end Custody

-- ================================================================== the check

/-- The changes a movement must have made, as (side, what changed) in the order they are checked. -/
def Movement.changes (m : Movement) (thisAfter accountAfter : Amount) :
    List (MovementSide × Amount) :=
  match m.kind with
  | .lock => [(.lockThis, thisAfter.excess m.thisBefore),
      (.lockFrom, m.accountBefore.excess accountAfter)]
  | .unlock => [(.unlockTo, accountAfter.excess m.accountBefore),
      (.unlockThis, m.thisBefore.excess thisAfter)]
  | .mint => [(.mintTo, accountAfter.excess m.accountBefore)]
  | .burn => [(.burnFrom, m.accountBefore.excess accountAfter)]

/-- The first change that is not the amount refuses the movement. -/
def checkChanges (amount : Amount) : List (MovementSide × Amount) → Outcome Unit
  | [] => .ok ()
  | (side, found) :: rest =>
    if found = amount then checkChanges amount rest
    else .error (.wrongMovement side amount found)

/-- The balances after a movement are what it should have made them. -/
def Movement.verify (m : Movement) (thisAfter accountAfter : Amount) : Outcome Unit :=
  checkChanges m.amount (m.changes thisAfter accountAfter)

-- ================================================================ in the bridge

/-- The number under which the host reports back on token movements. -/
def custodyReplyId : UInt64 := 1

/-- Sends a token movement and waits for the report. -/
def Bridge.dispatch (b : Bridge) (custody : Custody) : Outcome (Dispatch × Bridge) := do
  b.requireIdle
  return (.awaited custody.message, { b with inFlight := some custody.check })

/-- The host reports that an awaited message went well, or why it failed. -/
def Bridge.reply (b : Bridge) (c : Context) (id : UInt64) (failure : Option String) :
    Outcome (Receipt × Bridge) := do
  require (id = custodyReplyId) (.unexpectedReply id)
  match b.inFlight with
  | none => .error (.unexpectedReply id)
  | some movement =>
    match failure with
    | some reason =>
      .error (if movement.token.isNative then .nativeTransferFailed reason
        else .tokenCallFailed reason)
    | none => do
      let thisAfter ← c.balance movement.token c.self
      let accountAfter ← c.balance movement.token movement.account
      movement.verify thisAfter accountAfter
      return (.note
        [("method", "custody_verified"),
         ("custody_action", movement.kind.label),
         ("token", movement.token.id),
         ("amount", movement.amount.toText)],
        { b with inFlight := none })

end TokenBridge
