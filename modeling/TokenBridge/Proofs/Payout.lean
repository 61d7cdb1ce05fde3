/-
What a payout tells when it succeeds.

The record of a payout names the withdrawal as it was found, what came in
and what goes out, and the whole state that is left: one mark is set, the
payout is taken off the locked balance of a held token, and a movement may
be in flight. The amounts are tied together as natural numbers, so a proof
about coins adds them up and needs no rule of the payout again.
-/
import TokenBridge.Proofs.Custody
import TokenBridge.Proofs.Reviewing

namespace TokenBridge

open Outcome

variable {b b' : Bridge} {c : Context} {funds : List Coin}
  {receipt : Receipt}

/-- Who may be paid: an approved withdrawal that is neither vetoed nor paid
already, once its review window is over. -/
theorem Bridge.payable_eq_ok {hash : Word} {w : Withdrawal}
    (h : b.payable c hash = .ok w) :
    b.withdrawals.get? hash = some w ∧ w.marks.executed = false
      ∧ w.marks.approved = true ∧ w.marks.cancelled = false
      ∧ ∃ s, b.settings = some s
        ∧ ReviewWindow.isOpen w.marks.approvedAt s.reviewWindow c.now
            = false := by
  simp only [payable, bind_eq_ok_iff, require_eq_ok_iff, pure_eq_ok_iff,
    exists_const, loadSettings_eq_ok_iff, loadWithdrawal_eq_ok_iff,
    Bool.not_eq_true'] at h
  obtain ⟨w, hw, hexec, happ, hveto, s, hs, hover, rfl⟩ := h
  exact ⟨hw, hexec, happ, hveto, s, hs, hover⟩

/-- A fee that is taken out of the payout is taken in full. -/
theorem Withdrawal.deductedFee_of_deducts {w : Withdrawal}
    (deducts : w.deductFee = true) : w.deductedFee = w.fee := by
  unfold deductedFee
  rw [if_pos deducts]

/-- A fee that is paid beside the payout takes nothing out of it. -/
theorem Withdrawal.deductedFee_of_beside {w : Withdrawal}
    (beside : w.deductFee = false) : w.deductedFee = Amount.zero := by
  unfold deductedFee
  rw [beside, if_neg Bool.false_ne_true]

/-- The caller pays a fee that is due beside the payout, in full or more;
where none is due the caller may attach nothing. -/
theorem Withdrawal.callerFee_eq_ok {w : Withdrawal}
    {attached caller : Amount} (h : w.callerFee attached = .ok caller) :
    caller = attached
      ∧ ((w.deductFee = true ∨ w.fee.toNat = 0) → attached.toNat = 0)
      ∧ (w.deductFee = false → w.fee.toNat ≤ attached.toNat) := by
  unfold callerFee at h
  cases hdue : (w.deductFee || w.fee.isZero) with
  | true =>
      simp only [hdue, if_true, bind_eq_ok_iff, require_eq_ok_iff,
        pure_eq_ok_iff, exists_const] at h
      obtain ⟨hzero, rfl⟩ := h
      have hz := Amount.isZero_iff.mp hzero
      -- with a fee to be deducted or none at all, coins would be kept for
      -- nothing
      refine ⟨(Amount.eq_zero_of_toNat hz).symm, fun _ => hz, fun hd => ?_⟩
      rw [hd, Bool.false_or] at hdue
      have := Amount.isZero_iff.mp hdue
      omega
  | false =>
      simp only [hdue, Bool.false_eq_true, if_false, bind_eq_ok_iff,
        require_eq_ok_iff, pure_eq_ok_iff, exists_const,
        decide_eq_true_eq] at h
      obtain ⟨hle, rfl⟩ := h
      rw [Bool.or_eq_false_iff] at hdue
      refine ⟨rfl, ?_, fun _ => hle⟩
      -- a fee is due beside the payout, so neither case arises
      rintro (hd | hf)
      · rw [hdue.1] at hd
        cases hd
      · exact absurd hf (Amount.isZero_eq_false_iff.mp hdue.2)

/-- What a payout that is made tells. -/
structure Executed (b : Bridge) (c : Context) (funds : List Coin)
    (kind : TokenKind) (bytes : List UInt8) (receipt : Receipt)
    (b' : Bridge) where
  settings : Settings
  hash : Word
  found : Withdrawal
  token : Token
  payout : Amount
  toRecipient : Amount
  /-- All that was attached; it goes on as the fee that the caller pays. -/
  attached : Amount
  sent : List Dispatch
  settings_eq : b.settings = some settings
  running : settings.paused = false
  bytes_eq : bytes = hash.toList
  found_eq : b.withdrawals.get? hash = some found
  not_executed : found.marks.executed = false
  approved : found.marks.approved = true
  not_cancelled : found.marks.cancelled = false
  window_over : ReviewWindow.isOpen found.marks.approvedAt
    settings.reviewWindow c.now = false
  token_eq : b.loadToken found.token = .ok token
  kind_eq : token.kind = kind
  payout_eq : found.payout = .ok payout
  /-- The payout is what the recipient gets and the fee inside it. -/
  split :
    toRecipient.toNat + found.deductedFee.toNat = payout.toNat
  attached_eq : nativeFunds settings.nativeDenom Amount.zero funds
    = .ok attached
  /-- Coins come along only for a fee that is due beside the payout. -/
  no_fee_due : found.deductFee = true ∨ found.fee.toNat = 0 →
    attached.toNat = 0
  fee_covered : found.deductFee = false →
    found.fee.toNat ≤ attached.toNat
  /-- The whole payout leaves the ledger, the fee in it included. -/
  locked_eq :
    (kind = .lockUnlock ∧ ∃ left : Amount,
        left.toNat + payout.toNat = (b.lockedBalance token.id).toNat
          ∧ b'.locked = b.locked.insert token.id left)
      ∨ (kind = .mintBurn ∧ b'.locked = b.locked)
  /-- A recipient who gets nothing is sent nothing. -/
  released :
    (toRecipient.toNat = 0 ∧ sent = [] ∧ b'.inFlight = b.inFlight)
      ∨ ∃ custody, toRecipient.toNat ≠ 0
        ∧ Custody.release token.kind c token found.recipient toRecipient
            = .ok custody
        ∧ sent = [.awaited custody.message]
        ∧ b'.inFlight = some custody.check
  custody : CustodySent b.inFlight sent b'.inFlight
  messages : receipt.messages = sent ++ feeMessages found.feeRecipient
    (feeCoins token settings.nativeDenom found.deductedFee attached)
  /-- Besides one mark, only the ledger and what is in flight change. -/
  after : b' = { b with
    locked := b'.locked
    withdrawals := b.withdrawals.insert hash
      { found with marks := { found.marks with executed := true } }
    inFlight := b'.inFlight }

/-- Taking a payout off the locked balance touches nothing else. -/
theorem Bridge.unlockFor_eq_ok {kind : TokenKind} {token : Token}
    {payout : Amount} (h : b.unlockFor kind token payout = .ok b') :
    ((kind = .lockUnlock ∧ ∃ left : Amount,
        left.toNat + payout.toNat = (b.lockedBalance token.id).toNat
          ∧ b'.locked = b.locked.insert token.id left)
      ∨ (kind = .mintBurn ∧ b'.locked = b.locked))
      ∧ b' = { b with locked := b'.locked } := by
  cases kind with
  | lockUnlock =>
      simp only [unlockFor, map_eq_ok_iff, Prod.exists] at h
      obtain ⟨left, b₁, hdec, rfl⟩ := h
      obtain ⟨hleft, rfl⟩ := decreaseLocked_eq_ok hdec
      exact ⟨.inl ⟨rfl, left, hleft, rfl⟩, rfl⟩
  | mintBurn =>
      cases h
      exact ⟨.inr ⟨rfl, rfl⟩, rfl⟩

/-- What an accepted payout has checked, written and sent. The marks, the
window and the kind come first, then the amounts, and the movement last. -/
theorem Bridge.executed_of_execute {kind : TokenKind} {bytes : List UInt8}
    (h : b.execute c funds kind bytes = .ok (receipt, b')) :
    Nonempty (Executed b c funds kind bytes receipt b') := by
  simp only [execute, bind_eq_ok_iff, require_eq_ok_iff, pure_eq_ok_iff,
    ofOption_eq_ok_iff, exists_const, loadSettings_eq_ok_iff,
    hashOf_eq_ok_iff, Prod.exists, Prod.mk.injEq] at h
  obtain ⟨settings, hs, hrun, hash, hbytes, found, hpay, token, htoken,
    hkind, payout, hpayout, toRecipient, hsub, attached, hattached, caller,
    hcaller, b₁, hunlock, sent, b₂, hrelease, fee, -, hreceipt, rfl⟩ := h
  rw [Bool.not_eq_true'] at hrun
  obtain ⟨hfound, hexec, happ, hveto, s, hs', hover⟩ := payable_eq_ok hpay
  rw [hs] at hs'
  cases hs'
  -- the coins that came along are the caller's fee, and cover it
  obtain ⟨rfl, hnone, hcover⟩ := Withdrawal.callerFee_eq_ok hcaller
  obtain ⟨hlocked, hb₁⟩ := unlockFor_eq_ok hunlock
  obtain ⟨hreleased, hcustody, hb₂⟩ := releaseCustody_eq_ok hrelease
  have hlocked₂ : b₂.locked = b₁.locked := by rw [hb₂]
  have hidle : b₁.inFlight = b.inFlight := by rw [hb₁]
  refine ⟨{
    settings, hash, found, token, payout, toRecipient, sent
    attached := caller
    settings_eq := hs
    running := hrun
    bytes_eq := hbytes
    found_eq := hfound
    not_executed := hexec
    approved := happ
    not_cancelled := hveto
    window_over := hover
    token_eq := htoken
    kind_eq := of_decide_eq_true hkind
    payout_eq := hpayout
    split := Amount.sub?_eq_some_iff.mp hsub
    attached_eq := hattached
    no_fee_due := hnone
    fee_covered := hcover
    locked_eq := by rw [hlocked₂]; exact hlocked
    released := by rw [← hidle]; exact hreleased
    custody := by rw [← hidle]; exact hcustody
    messages := by rw [← hreceipt]
    after := ?_ }⟩
  rw [hb₂, hb₁]

end TokenBridge
