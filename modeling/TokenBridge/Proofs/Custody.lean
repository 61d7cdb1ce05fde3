/-
What token movements tell when they begin and when they are reported on.

Taking or giving custody changes one field of the bridge, the movement in
flight, and the receipt waits for a report exactly if that field was set.
A report that is accepted clears the field and changes nothing else.
-/
import TokenBridge.Proofs.State
import TokenBridge.Depositing
import TokenBridge.Payout

namespace TokenBridge

open Outcome

variable {b b' : Bridge} {c : Context} {receipt : Receipt}

/-- A movement is sent only while none is in flight, and then it is. -/
theorem Bridge.dispatch_eq_ok {custody : Custody} {sent : Dispatch}
    (h : b.dispatch custody = .ok (sent, b')) :
    b.inFlight = none ∧ sent = .awaited custody.message
      ∧ b' = { b with inFlight := some custody.check } := by
  simp only [dispatch, bind_eq_ok_iff, pure_eq_ok_iff, exists_const,
    requireIdle_eq_ok_iff, Prod.mk.injEq] at h
  obtain ⟨hidle, rfl, rfl⟩ := h
  exact ⟨hidle, rfl, rfl⟩

/-- What a receipt says of custody, and what becomes of the movement in
flight: nothing was sent and it is as before, or one movement was. -/
inductive CustodySent (before : Option Movement) :
    List Dispatch → Option Movement → Prop
  | nothing : CustodySent before [] before
  /-- One movement sets out, from a bridge that had none. -/
  | moved (custody : Custody) (idle : before = none) :
      CustodySent before [.awaited custody.message] (some custody.check)

/-- Taking custody: nothing is sent for coins, which came along, and a
movement of the whole amount for tokens of a contract. -/
theorem Bridge.takeCustody_eq_ok {token : Token} {owner : Address}
    {amount : Amount} {sent : List Dispatch}
    (h : b.takeCustody c token owner amount = .ok (sent, b')) :
    ∃ custody, Custody.take token.kind c token owner amount = .ok custody
      ∧ sent = custody.toList.map (fun x => .awaited x.message)
      ∧ CustodySent b.inFlight sent b'.inFlight
      ∧ b'.inFlight = custody.elim b.inFlight (fun x => some x.check)
      ∧ b' = { b with inFlight := b'.inFlight } := by
  simp only [takeCustody, bind_eq_ok_iff] at h
  obtain ⟨custody, htake, h⟩ := h
  cases custody with
  | none =>
      cases h
      exact ⟨none, htake, rfl, .nothing, rfl, rfl⟩
  | some custody =>
      simp only [bind_eq_ok_iff, pure_eq_ok_iff, Prod.exists,
        Prod.mk.injEq] at h
      obtain ⟨message, b₁, hdispatch, rfl, rfl⟩ := h
      obtain ⟨hidle, rfl, rfl⟩ := dispatch_eq_ok hdispatch
      exact ⟨some custody, htake, rfl, .moved custody hidle, rfl, rfl⟩

/-- Giving custody: nothing is sent for nothing, else one movement of the
whole amount. -/
theorem Bridge.releaseCustody_eq_ok {token : Token} {recipient : Address}
    {amount : Amount} {sent : List Dispatch}
    (h : b.releaseCustody c token recipient amount = .ok (sent, b')) :
    ((amount.toNat = 0 ∧ sent = [] ∧ b'.inFlight = b.inFlight)
        ∨ ∃ custody, amount.toNat ≠ 0
          ∧ Custody.release token.kind c token recipient amount = .ok custody
          ∧ sent = [.awaited custody.message]
          ∧ b'.inFlight = some custody.check)
      ∧ CustodySent b.inFlight sent b'.inFlight
      ∧ b' = { b with inFlight := b'.inFlight } := by
  unfold releaseCustody at h
  cases hz : amount.isZero with
  | true =>
      rw [hz] at h
      cases h
      exact ⟨.inl ⟨Amount.isZero_iff.mp hz, rfl, rfl⟩, .nothing, rfl⟩
  | false =>
      simp only [hz, Bool.false_eq_true, if_false, bind_eq_ok_iff,
        pure_eq_ok_iff, Prod.exists, Prod.mk.injEq] at h
      obtain ⟨custody, hrelease, message, b₁, hdispatch, rfl, rfl⟩ := h
      obtain ⟨hidle, rfl, rfl⟩ := dispatch_eq_ok hdispatch
      exact ⟨.inr ⟨custody, Amount.isZero_eq_false_iff.mp hz, hrelease, rfl,
        rfl⟩, .moved custody hidle, rfl⟩

/-- The message that takes custody asks the token's contract; coins came
along, so there is none for them. -/
theorem Custody.take_message {kind : TokenKind} {token : Token}
    {owner : Address} {amount : Amount} {custody : Option Custody}
    (h : Custody.take kind c token owner amount = .ok custody) :
    (token.isNative = true ∧ custody = none)
      ∨ (token.isNative = false ∧ ∃ x request, custody = some x
        ∧ x.message = .call token.id request) := by
  cases kind with
  | lockUnlock =>
      unfold take at h
      cases hn : token.isNative with
      | true =>
          simp only [hn, if_true] at h
          cases h
          exact .inl ⟨rfl, rfl⟩
      | false =>
          simp only [hn, Bool.false_eq_true, if_false, bind_eq_ok_iff,
            pure_eq_ok_iff] at h
          obtain ⟨check, -, rfl⟩ := h
          exact .inr ⟨rfl, _, _, rfl, rfl⟩
  | mintBurn =>
      simp only [take, requireContract, bind_eq_ok_iff, require_eq_ok_iff,
        pure_eq_ok_iff, exists_const, Bool.not_eq_true'] at h
      obtain ⟨hn, check, -, rfl⟩ := h
      exact .inr ⟨hn, _, _, rfl, rfl⟩

-- ============================================================ what is noted

/-- The movement that gives tokens of a kind out of custody. -/
def TokenKind.release : TokenKind → MovementKind
  | .lockUnlock => .unlock
  | .mintBurn => .mint

/-- The message that gives an amount of a token out of custody. -/
def Token.releaseMessage (token : Token) (recipient : Address)
    (amount : Amount) : Outgoing :=
  match token.kind with
  | .lockUnlock =>
    if token.isNative then .send recipient (coins amount token.id)
    else .call token.id (.transfer recipient amount)
  | .mintBurn => .call token.id (.mint recipient amount)

/-- Coins are sent, and tokens of a contract are asked of it. -/
theorem Token.releaseMessage_cases {token : Token} {recipient : Address}
    {amount : Amount}
    (contract : token.kind = .mintBurn → token.isNative = false) :
    (token.isNative = true ∧ token.releaseMessage recipient amount
        = .send recipient (coins amount token.id))
      ∨ (token.isNative = false ∧ ∃ request,
        token.releaseMessage recipient amount = .call token.id request) := by
  unfold releaseMessage
  cases hkind : token.kind with
  | mintBurn => exact .inr ⟨contract hkind, _, rfl⟩
  | lockUnlock =>
      cases hnative : token.isNative with
      | true => exact .inl ⟨rfl, rfl⟩
      | false => exact .inr ⟨rfl, _, rfl⟩

namespace Custody

variable {token : Token} {account : Address} {amount : Amount}

/-- A movement is noted with the balances that are reported. -/
theorem note_eq_ok_iff {kind : MovementKind} {m : Movement} :
    note c kind token account amount = .ok m ↔
      c.balance token c.self = .ok m.thisBefore
        ∧ c.balance token account = .ok m.accountBefore
        ∧ m = ⟨kind, token, account, amount, m.thisBefore,
            m.accountBefore⟩ := by
  simp only [note, bind_eq_ok_iff, pure_eq_ok_iff]
  constructor
  · rintro ⟨thisBefore, hthis, accountBefore, haccount, rfl⟩
    exact ⟨hthis, haccount, rfl⟩
  · rintro ⟨hthis, haccount, hm⟩
    exact ⟨_, hthis, _, haccount, hm.symm⟩

/-- Taking custody notes the whole amount of the token; of a token that is
held, as a lock. -/
theorem take_check {kind : TokenKind} {custody : Custody}
    (h : take kind c token account amount = .ok (some custody)) :
    ∃ moves, note c moves token account amount = .ok custody.check
      ∧ (kind = .lockUnlock → moves = .lock) := by
  cases kind with
  | lockUnlock =>
      unfold take at h
      cases hn : token.isNative with
      | true =>
          simp only [hn, if_true] at h
          cases h
      | false =>
          simp only [hn, Bool.false_eq_true, if_false, bind_eq_ok_iff,
            pure_eq_ok_iff] at h
          obtain ⟨check, hnote, hsome⟩ := h
          cases hsome
          exact ⟨.lock, hnote, fun _ => rfl⟩
  | mintBurn =>
      simp only [take, bind_eq_ok_iff, pure_eq_ok_iff] at h
      obtain ⟨-, -, check, hnote, hsome⟩ := h
      cases hsome
      refine ⟨.burn, hnote, fun hkind => ?_⟩
      cases hkind

/-- Giving custody sends the message for the token and notes the whole
amount. -/
theorem release_eq_ok_iff {custody : Custody} :
    release token.kind c token account amount = .ok custody ↔
      (token.kind = .mintBurn → token.isNative = false)
        ∧ custody.message = token.releaseMessage account amount
        ∧ note c token.kind.release token account amount
          = .ok custody.check := by
  unfold Token.releaseMessage
  cases token.kind with
  | lockUnlock =>
      simp only [release, bind_eq_ok_iff, pure_eq_ok_iff]
      constructor
      · rintro ⟨check, hnote, rfl⟩
        exact ⟨nofun, rfl, hnote⟩
      · rintro ⟨-, hmessage, hnote⟩
        exact ⟨_, hnote, by rw [← hmessage]⟩
  | mintBurn =>
      simp only [release, requireContract, bind_eq_ok_iff, require_eq_ok_iff,
        pure_eq_ok_iff, exists_const, Bool.not_eq_true']
      constructor
      · rintro ⟨hcontract, check, hnote, rfl⟩
        exact ⟨fun _ => hcontract, rfl, hnote⟩
      · rintro ⟨hcontract, hmessage, hnote⟩
        exact ⟨hcontract trivial, _, hnote, by rw [← hmessage]⟩

end Custody

/-- Nothing but the balances can keep a token from being given out, if it is
of a kind that can be. -/
theorem Bridge.releaseCustody_accepted {token : Token} {recipient : Address}
    {amount : Amount} (idle : b.inFlight = none)
    (contract : token.kind = .mintBurn → token.isNative = false)
    (answered : amount.toNat ≠ 0 → ∃ thisBefore accountBefore,
      c.balance token c.self = .ok thisBefore
        ∧ c.balance token recipient = .ok accountBefore) :
    ∃ result, b.releaseCustody c token recipient amount = .ok result := by
  unfold releaseCustody
  cases hz : amount.isZero with
  | true => exact ⟨_, rfl⟩
  | false =>
      obtain ⟨thisBefore, accountBefore, hthis, haccount⟩ :=
        answered (Amount.isZero_eq_false_iff.mp hz)
      have hnote := Custody.note_eq_ok_iff.mpr
        ⟨hthis, haccount, Eq.refl (Movement.mk token.kind.release token
          recipient amount thisBefore accountBefore)⟩
      have hrelease : Custody.release token.kind c token recipient amount
          = .ok ⟨token.releaseMessage recipient amount, _⟩ :=
        Custody.release_eq_ok_iff.mpr ⟨contract, rfl, hnote⟩
      have hidle : b.requireIdle = .ok () := requireIdle_eq_ok_iff.mpr idle
      unfold dispatch
      rw [hrelease, hidle]
      exact ⟨_, rfl⟩

-- =============================================================== the report

/-- A report that is accepted was awaited; it clears the movement in
flight, changes nothing else and sends nothing. -/
theorem Bridge.reply_eq_ok {id : UInt64} {failure : Option String}
    (h : b.reply c id failure = .ok (receipt, b')) :
    (∃ movement, b.inFlight = some movement)
      ∧ b' = { b with inFlight := none } ∧ receipt.messages = [] := by
  simp only [reply, bind_eq_ok_iff, require_eq_ok_iff, exists_const] at h
  obtain ⟨-, h⟩ := h
  cases hm : b.inFlight with
  | none => rw [hm] at h; cases h
  | some movement =>
      rw [hm] at h
      cases failure with
      | some reason => cases h
      | none =>
          simp only [bind_eq_ok_iff, pure_eq_ok_iff, Prod.mk.injEq] at h
          obtain ⟨thisAfter, -, accountAfter, -, _, -, rfl, rfl⟩ := h
          exact ⟨⟨movement, rfl⟩, rfl, rfl⟩

end TokenBridge
