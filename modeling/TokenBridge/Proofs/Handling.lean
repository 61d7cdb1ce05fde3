/-
What a request that is taken tells, whichever it is.

`Handled` has one case for each rule of the bridge and holds the record of
that rule. It is the only thing a proof about steps looks at: an invariant
is shown once for each case, and the requests that share a rule share the
case. The two facts every run leans on stand here as well, that nothing is
taken while a movement is in flight, and that a receipt waits for a report
exactly if a movement is in flight after it.
-/
import TokenBridge.Proofs.Administration
import TokenBridge.Proofs.Depositing
import TokenBridge.Proofs.Payout

namespace TokenBridge

open Outcome

variable {b b' : Bridge} {c : Context} {sender : Address}
  {funds : List Coin} {r : Request} {receipt : Receipt}

/-- The hash whose payout a request asks for, whatever the kind of the
token. -/
def Request.payoutOf : Request → Option (List UInt8)
  | .executeUnlock hash => some hash
  | .executeMint hash => some hash
  | _ => none

/-- What a request that is taken tells, by the rule that took it. -/
inductive Handled (b : Bridge) (c : Context) (sender : Address)
    (funds : List Coin) (receipt : Receipt) (b' : Bridge) : Request → Prop
  /-- One of the three messages that bring something. -/
  | deposit {r : Request} {token : Token} {amount : Amount}
      {destChain destAccount : List UInt8}
      (brought : Brought b funds r token amount destChain destAccount)
      (told : Deposited b c sender token amount destChain destAccount
        receipt b') : Handled b c sender funds receipt b' r
  | submit {s : Submission} (told : Submitted b c funds s receipt b') :
      Handled b c sender funds receipt b' (.submit s)
  | approve {bytes : List UInt8} {fee : Option ApprovalFee}
      (told : Approved b c sender bytes fee receipt b') :
      Handled b c sender funds receipt b' (.approve bytes fee)
  | cancel {bytes : List UInt8} (told : Vetoed b c sender bytes receipt b') :
      Handled b c sender funds receipt b' (.cancel bytes)
  | uncancel {bytes : List UInt8}
      (told : Restored b c sender bytes receipt b') :
      Handled b c sender funds receipt b' (.uncancel bytes)
  /-- One of the two messages that pay out. -/
  | execute {r : Request} {kind : TokenKind} {bytes : List UInt8}
      (asks : r.payoutOf = some bytes)
      (told : Executed b c funds kind bytes receipt b') :
      Handled b c sender funds receipt b' r
  /-- One of the messages of the administrator, which share a frame. -/
  | administer {r : Request} (only : r.isAdministrative = true)
      (told : Administered b receipt b') :
      Handled b c sender funds receipt b' r

/-- Every request that is handled is handled by one of these rules. -/
theorem Bridge.handled_of_handle
    (h : b.handle c sender funds r = .ok (receipt, b')) :
    Handled b c sender funds receipt b' r := by
  cases r with
  | depositNative destChain destAccount =>
      obtain ⟨token, amount, hbrought, ⟨hd⟩⟩ := deposited_of_depositNative h
      exact .deposit hbrought hd
  | depositToken id amount destChain destAccount =>
      obtain ⟨token, hfunds, hfound, hnative, hkind, ⟨hd⟩⟩ :=
        deposited_of_depositContractToken h
      exact .deposit (.held hfunds hfound hnative hkind) hd
  | depositMintable id amount destChain destAccount =>
      obtain ⟨token, hfunds, hfound, hnative, hkind, ⟨hd⟩⟩ :=
        deposited_of_depositContractToken h
      exact .deposit (.burned hfunds hfound hnative hkind) hd
  | submit s =>
      obtain ⟨hs⟩ := submitted_of_submit h
      exact .submit hs
  | approve bytes fee =>
      obtain ⟨ha⟩ := approved_of_approve h
      exact .approve ha
  | cancel bytes =>
      obtain ⟨hv⟩ := vetoed_of_cancel h
      exact .cancel hv
  | uncancel bytes =>
      obtain ⟨hr⟩ := restored_of_uncancel h
      exact .uncancel hr
  | executeUnlock bytes =>
      obtain ⟨he⟩ := executed_of_execute h
      exact .execute rfl he
  | executeMint bytes =>
      obtain ⟨he⟩ := executed_of_execute h
      exact .execute rfl he
  | setReviewWindow | addRole | removeRole | registerChain
  | unregisterChain | addToken | setTokenEnabled | setCounterpart | setFees
  | setCustomRate | removeCustomRate | pause | unpause =>
      exact .administer rfl (administered_of_handle rfl h)

/-- A request is taken only while no movement is in flight, and then it is
handled. -/
theorem Bridge.handled_of_take
    (h : b.take c sender funds r = .ok (receipt, b')) :
    b.inFlight = none ∧ Handled b c sender funds receipt b' r := by
  simp only [take, bind_eq_ok_iff, requireIdle_eq_ok_iff, exists_const] at h
  exact ⟨h.1, handled_of_handle h.2⟩

-- ============================================================= the deposits

/-- Only a deposit writes the log of deposits and the index to it. -/
theorem Handled.deposited_or_kept
    (h : Handled b c sender funds receipt b' r) :
    (∃ token amount destChain destAccount,
        Nonempty (Deposited b c sender token amount destChain destAccount
          receipt b'))
      ∨ (b'.deposits = b.deposits ∧ b'.depositByNonce = b.depositByNonce
        ∧ b'.nextNonce = b.nextNonce) := by
  cases h with
  | deposit brought told => exact .inl ⟨_, _, _, _, ⟨told⟩⟩
  | submit told => right; rw [told.after]; exact ⟨rfl, rfl, rfl⟩
  | approve told => right; rw [told.after]; exact ⟨rfl, rfl, rfl⟩
  | cancel told => right; rw [told.after]; exact ⟨rfl, rfl, rfl⟩
  | uncancel told => right; rw [told.after]; exact ⟨rfl, rfl, rfl⟩
  | execute asks told => right; rw [told.after]; exact ⟨rfl, rfl, rfl⟩
  | administer only told => right; rw [told.frame]; exact ⟨rfl, rfl, rfl⟩

-- =============================================================== the tokens

/-- The registry moves as its administrator moves it, or not at all. -/
theorem Handled.tokensMoved (h : Handled b c sender funds receipt b' r) :
    TokensMoved b.tokens b'.tokens := by
  cases h with
  | deposit brought told => rw [told.after]; exact .same
  | submit told => rw [told.after]; exact .same
  | approve told => rw [told.after]; exact .same
  | cancel told => rw [told.after]; exact .same
  | uncancel told => rw [told.after]; exact .same
  | execute asks told => rw [told.after]; exact .same
  | administer only told => exact told.tokens

-- ======================================================== awaiting a report

/-- What puts a movement in flight is a deposit or a payout. -/
theorem Handled.deposited_or_executed
    (h : Handled b c sender funds receipt b' r)
    (idle : b.inFlight = none) (flying : b'.inFlight.isSome = true) :
    (∃ token amount destChain destAccount,
        Brought b funds r token amount destChain destAccount
          ∧ Nonempty (Deposited b c sender token amount destChain destAccount
            receipt b'))
      ∨ ∃ kind bytes, r.payoutOf = some bytes
        ∧ Nonempty (Executed b c funds kind bytes receipt b') := by
  have hmoved : b'.inFlight ≠ b.inFlight := by
    intro hsame
    rw [hsame, idle] at flying
    cases flying
  cases h with
  | deposit brought told => exact .inl ⟨_, _, _, _, brought, ⟨told⟩⟩
  | execute asks told => exact .inr ⟨_, _, asks, ⟨told⟩⟩
  | submit told => exact absurd (by rw [told.after]) hmoved
  | approve told => exact absurd (by rw [told.after]) hmoved
  | cancel told => exact absurd (by rw [told.after]) hmoved
  | uncancel told => exact absurd (by rw [told.after]) hmoved
  | administer only told => exact absurd (by rw [told.frame]) hmoved

/-- Whether a receipt waits for a report. -/
def Receipt.awaits (r : Receipt) : Bool := r.messages.any Dispatch.isAwaited

/-- Where nothing waited before, a movement waits exactly if one was sent. -/
theorem CustodySent.any_isAwaited {before after : Option Movement}
    {sent : List Dispatch} (h : CustodySent before sent after)
    (idle : before = none) : sent.any Dispatch.isAwaited = after.isSome := by
  cases h with
  | nothing => rw [idle]; rfl
  | moved custody => rfl

/-- A fee is sent off without waiting for an answer. -/
theorem feeMessages_not_awaited (recipient : Option Address)
    (paid : List Coin) :
    (feeMessages recipient paid).any Dispatch.isAwaited = false := by
  unfold feeMessages
  split <;> rfl

theorem tipMessages_not_awaited (w : Withdrawal) (operator : Address)
    (denom : String) :
    (tipMessages w operator denom).any Dispatch.isAwaited = false := by
  unfold tipMessages
  split <;> rfl

/-- A receipt waits for a report exactly if a movement is in flight. -/
theorem Handled.awaits_eq (h : Handled b c sender funds receipt b' r)
    (idle : b.inFlight = none) : receipt.awaits = b'.inFlight.isSome := by
  unfold Receipt.awaits
  cases h with
  | @deposit r token amount destChain destAccount brought told =>
      rw [told.messages, List.any_append, told.sent.any_isAwaited idle]
      -- the fee of a deposit is no movement either, whether there is one or
      -- not
      have hfee : (if told.charge.fee.isZero then ([] : List Dispatch)
          else [.plain (feeMessage token sender told.settings.fees.recipient
            told.charge.fee)]).any Dispatch.isAwaited = false := by
        split <;> rfl
      rw [hfee, Bool.or_false]
  | submit told =>
      have hkept : b'.inFlight = b.inFlight := by rw [told.after]
      rw [told.messages, hkept, idle]
      rfl
  | approve told =>
      have hkept : b'.inFlight = b.inFlight := by rw [told.after]
      rw [told.messages, tipMessages_not_awaited, hkept, idle]
      rfl
  | cancel told =>
      have hkept : b'.inFlight = b.inFlight := by rw [told.after]
      rw [told.messages, hkept, idle]
      rfl
  | uncancel told =>
      have hkept : b'.inFlight = b.inFlight := by rw [told.after]
      rw [told.messages, hkept, idle]
      rfl
  | execute asks told =>
      rw [told.messages, List.any_append, told.custody.any_isAwaited idle,
        feeMessages_not_awaited, Bool.or_false]
  | administer only told =>
      have hkept : b'.inFlight = b.inFlight := by rw [told.frame]
      rw [told.messages, hkept, idle]
      rfl

end TokenBridge
