/-
A report is accepted for the right balances and no others.

The bridge compares what one balance has over another with the amount, and
nothing is over what it does not exceed: a balance that fell counts like one
that stayed. So the comparison tells a movement from its absence only if the
amount is not zero, and this is never so. A fee leaves something of every
deposit, and a payout of nothing sends nothing.

The other half of the comparison is what was noted when the movement set
out. While the report is outstanding nothing in the bridge changes but the
version mark, so it is still what the token answered then.
-/
import TokenBridge.Proofs.Solvency

namespace TokenBridge

open Outcome

-- ================================================================= the changes

/-- The balances after a movement are those before it, moved by the amount
and in the right direction. Of tokens that are minted or burned the bridge
holds none. -/
def Movement.Exact (m : Movement) (thisAfter accountAfter : Amount) : Prop :=
  match m.kind with
  | .lock =>
    thisAfter.toNat = m.thisBefore.toNat + m.amount.toNat
      ∧ accountAfter.toNat + m.amount.toNat = m.accountBefore.toNat
  | .unlock =>
    accountAfter.toNat = m.accountBefore.toNat + m.amount.toNat
      ∧ thisAfter.toNat + m.amount.toNat = m.thisBefore.toNat
  | .mint => accountAfter.toNat = m.accountBefore.toNat + m.amount.toNat
  | .burn => accountAfter.toNat + m.amount.toNat = m.accountBefore.toNat

/-- What one balance has over another is an amount other than zero exactly
if the two differ by it. -/
theorem Amount.excess_eq_iff {a b amount : Amount} (h : amount.toNat ≠ 0) :
    a.excess b = amount ↔ a.toNat = b.toNat + amount.toNat := by
  rw [Amount.ext_iff, toNat_excess]
  omega

/-- So the changes that are checked are exact. -/
theorem Movement.exact_iff_changes {m : Movement} (h : m.amount.toNat ≠ 0)
    {thisAfter accountAfter : Amount} :
    m.Exact thisAfter accountAfter ↔
      ∀ side found, (side, found) ∈ m.changes thisAfter accountAfter →
        found = m.amount := by
  have hpairs : (∀ side found,
      (side, found) ∈ m.changes thisAfter accountAfter → found = m.amount) ↔
      ∀ change ∈ m.changes thisAfter accountAfter, change.2 = m.amount :=
    ⟨fun hall change => hall change.1 change.2,
      fun hall side found => hall (side, found)⟩
  rw [hpairs]
  unfold Exact changes
  cases m.kind with
  | lock =>
      rw [List.forall_mem_cons, List.forall_mem_singleton,
        Amount.excess_eq_iff h, Amount.excess_eq_iff h]
      exact and_congr_right fun _ => eq_comm
  | unlock =>
      rw [List.forall_mem_cons, List.forall_mem_singleton,
        Amount.excess_eq_iff h, Amount.excess_eq_iff h]
      exact and_congr_right fun _ => eq_comm
  | mint => rw [List.forall_mem_singleton, Amount.excess_eq_iff h]
  | burn =>
      rw [List.forall_mem_singleton, Amount.excess_eq_iff h]
      exact eq_comm

-- ================================================================== the report

/-- Where nothing failed, the balances decide about a report. -/
theorem Bridge.reply_accepted_iff {b : Bridge} {c : Context} {m : Movement}
    (hm : b.inFlight = some m) (hamount : m.amount.toNat ≠ 0) :
    (∃ result, b.reply c custodyReplyId none = .ok result) ↔
      ∃ thisAfter accountAfter, c.balance m.token c.self = .ok thisAfter
        ∧ c.balance m.token m.account = .ok accountAfter
        ∧ m.Exact thisAfter accountAfter := by
  constructor
  · rintro ⟨⟨receipt, b'⟩, h⟩
    obtain ⟨thisAfter, accountAfter, hthis, haccount, hchanges⟩ :=
      verified_of_reply hm h
    exact ⟨thisAfter, accountAfter, hthis, haccount,
      (Movement.exact_iff_changes hamount).mpr hchanges⟩
  · rintro ⟨thisAfter, accountAfter, hthis, haccount, hexact⟩
    have hchanges := (Movement.exact_iff_changes hamount).mp hexact
    rcases reply_cases hm c custodyReplyId none with
      ⟨-, receipt, hok⟩ | ⟨e, hfault, -⟩
    · exact ⟨_, hok⟩
    · cases hfault with
      | unexpected other => exact absurd rfl other
      | failed reported => cases reported
      | unanswered asked refused =>
          rcases asked with rfl | rfl
          · cases hthis.symm.trans refused
          · cases haccount.symm.trans refused
      | wrong this account change differs =>
          cases hthis.symm.trans this
          cases haccount.symm.trans account
          exact absurd (hchanges _ _ change) differs

-- =============================================================== what sets out

/-- A movement as it sets out: it moves something, and the balances are those
that are reported. -/
structure Movement.SetsOut (m : Movement) (c : Context) : Prop where
  amount_ne : m.amount.toNat ≠ 0
  this : c.balance m.token c.self = .ok m.thisBefore
  account : c.balance m.token m.account = .ok m.accountBefore

/-- What is noted before a movement sets out from these balances. -/
theorem Movement.SetsOut.of_note {c : Context} {kind : MovementKind}
    {token : Token} {account : Address} {amount : Amount} {m : Movement}
    (hnote : Custody.note c kind token account amount = .ok m)
    (amount_ne : amount.toNat ≠ 0) : m.SetsOut c := by
  obtain ⟨hthis, haccount, hm⟩ := Custody.note_eq_ok_iff.mp hnote
  generalize m.thisBefore = thisBefore at *
  generalize m.accountBefore = accountBefore at *
  subst hm
  exact ⟨amount_ne, hthis, haccount⟩

section

variable {b b' : Bridge} {c : Context} {sender : Address}
  {funds : List Coin} {receipt : Receipt} {m : Movement}

/-- A deposit's movement sets out with what is left after the fee, which is
never nothing. -/
theorem Deposited.movementSetsOut {token : Token} {amount : Amount}
    {destChain destAccount : List UInt8}
    (told : Deposited b c sender token amount destChain destAccount receipt b')
    (capped : RatesCapped b) (idle : b.inFlight = none)
    (flying : b'.inFlight = some m) : m.SetsOut c := by
  have htake := told.custody_eq
  rw [told.flying] at flying
  cases hcustody : told.custody with
  | none =>
      rw [hcustody, Option.elim_none, idle] at flying
      cases flying
  | some custody =>
      rw [hcustody] at flying htake
      cases flying
      obtain ⟨moves, hnote, -⟩ := Custody.take_check htake
      have hnet := capped.net_pos told.settings_eq told.charge_eq
        told.amount_ne
      exact .of_note hnote (Nat.ne_of_gt hnet)

/-- A payout's movement sets out with what the recipient gets; nothing at all
makes no movement. -/
theorem Executed.movementSetsOut {kind : TokenKind} {bytes : List UInt8}
    (told : Executed b c funds kind bytes receipt b')
    (idle : b.inFlight = none) (flying : b'.inFlight = some m) :
    m.SetsOut c := by
  rcases told.released with
    ⟨-, -, hflying⟩ | ⟨custody, hne, hrelease, -, hflying⟩
  · rw [hflying, idle] at flying
    cases flying
  · rw [hflying] at flying
    cases flying
    obtain ⟨-, -, hnote⟩ := Custody.release_eq_ok_iff.mp hrelease
    exact .of_note hnote hne

end

/-- What a request puts in flight sets out in that moment. -/
theorem Taken.movementSetsOut (t : Taken) {m : Movement}
    (capped : RatesCapped t.before.bridge)
    (flying : t.after.inFlight = some m) : m.SetsOut t.before.context := by
  rcases t.handled.deposited_or_executed t.idle (by rw [flying]; rfl) with
    ⟨token, amount, destChain, destAccount, -, ⟨told⟩⟩
      | ⟨kind, bytes, -, ⟨told⟩⟩
  · exact told.movementSetsOut capped t.idle flying
  · exact told.movementSetsOut t.idle flying

-- ================================================================== every run

/-- What is in flight was put there by the request that waits. -/
theorem Awaiting.inFlight_eq {origin r : Run} {t : Taken}
    (h : Awaiting origin t r) : t.after.inFlight = r.last.bridge.inFlight := by
  rw [r.held t h.pending]

/-- While a movement is in flight it moves something, the balances noted with
it are what the token answered when the request behind it was taken, and a
report that the message went well is accepted exactly if the token answers
again and both balances are moved by the amount. -/
theorem Run.report_exact {r : Run} {m : Movement}
    (flying : r.last.bridge.inFlight = some m) :
    0 < m.amount.toNat
      ∧ (∃ origin t, Awaiting origin t r ∧ t.after.inFlight = some m
        ∧ origin.last.context.balance m.token Session.bridgeAddress
          = .ok m.thisBefore
        ∧ origin.last.context.balance m.token m.account
          = .ok m.accountBefore)
      ∧ ((∃ receipt, (r.last.step (.reply custodyReplyId none)).2
            = .ok (.receipt receipt)) ↔
          ∃ thisAfter accountAfter,
            r.last.context.balance m.token Session.bridgeAddress
              = .ok thisAfter
            ∧ r.last.context.balance m.token m.account = .ok accountAfter
            ∧ m.Exact thisAfter accountAfter) := by
  have hsome : r.last.bridge.inFlight.isSome = true := by rw [flying]; rfl
  obtain ⟨origin, t, hwait⟩ := r.inFlight_iff_awaiting.mp hsome
  have hput : t.after.inFlight = some m := hwait.inFlight_eq.trans flying
  have hcapped := (ratesCapped_invariant.throughout origin).now
  rw [← hwait.before_eq] at hcapped
  have hsetsOut := t.movementSetsOut hcapped hput
  rw [hwait.before_eq] at hsetsOut
  refine ⟨Nat.pos_of_ne_zero hsetsOut.amount_ne,
    ⟨origin, t, hwait, hput, hsetsOut.this, hsetsOut.account⟩, ?_⟩
  refine Iff.trans ?_ (Bridge.reply_accepted_iff (c := r.last.context) flying
    hsetsOut.amount_ne)
  constructor
  · rintro ⟨receipt, hresponse⟩
    obtain ⟨receipt', hreply, -⟩ := map_eq_ok_iff.mp hresponse
    obtain ⟨b', hb'⟩ := Session.reply_eq_ok hreply
    exact ⟨_, hb'⟩
  · rintro ⟨⟨receipt, b'⟩, hb'⟩
    rw [Session.step_reply_of_ok hb']
    exact ⟨receipt, rfl⟩

namespace Sample

/-- What the deposit of a contract's token sets out. -/
def locking : Movement :=
  ⟨.lock, ⟨heldId, false, .lockUnlock, 6, true⟩, user, amount, Amount.zero,
    thousand⟩

/-- When it is reported on, the bridge has what is left after the fee, and
the depositor has the fee. -/
theorem locking_state :
    fetched.last.bridge.inFlight = some locking
      ∧ fetched.last.context.balance locking.token Session.bridgeAddress
        = .ok amount
      ∧ fetched.last.context.balance locking.token locking.account
        = .ok deposit.fee := by
  decide +kernel

end Sample

/-- The report on a first deposit is accepted, as the contract moved what was
asked of it. -/
theorem Run.report_exact_of_first_deposit :
    Sample.fetched.last.bridge.inFlight = some Sample.locking
      ∧ Sample.locking.Exact Sample.amount Sample.deposit.fee
      ∧ ∃ receipt, (Sample.fetched.last.step Sample.arrival).2
        = .ok (.receipt receipt) := by
  obtain ⟨hflying, hthis, haccount⟩ := Sample.locking_state
  have hexact : Sample.locking.Exact Sample.amount Sample.deposit.fee :=
    ⟨by decide, by decide⟩
  obtain ⟨-, -, haccepted⟩ := Run.report_exact hflying
  exact ⟨hflying, hexact, haccepted.mpr ⟨_, _, hthis, haccount, hexact⟩⟩

end TokenBridge
