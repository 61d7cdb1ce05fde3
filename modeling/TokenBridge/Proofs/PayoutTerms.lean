/-
The terms of a payout, and what it does on these terms.

A payout passes a dozen guards, most of which look at the record, the
registry, the coins that came along or the answers of the token. They are
gathered in one list (`PayoutTerms`), and a payout is made exactly if the
list is complete; who asks for it is not on the list. Two links of the rule
are not on it either: the fee is taken out of the payout, and two fees are
added. In a state that a run reaches neither can fail, since a deducted fee
was checked against the payout at the approval, and of the two fees one is
nothing.

What a payout then does is said from the same list (`PayoutTerms.Made`).
Each of the messages is settled by two amounts, what is left for the
recipient and the fee, and either may be nothing.
-/
import TokenBridge.Proofs.Acceptance
import TokenBridge.Proofs.Arithmetic

namespace TokenBridge

open Outcome

-- ================================================================== the terms

/-- The request for the payout of a token of a kind. -/
def Request.payoutFor (kind : TokenKind) (hash : List UInt8) : Request :=
  match kind with
  | .lockUnlock => .executeUnlock hash
  | .mintBurn => .executeMint hash

/-- What is left of a payout for the recipient. -/
def Withdrawal.remainder (w : Withdrawal) (payout : Amount) : Amount :=
  payout.excess w.deductedFee

/-- All that a payout depends on. -/
structure PayoutTerms (s : Session) (funds : List Coin) (kind : TokenKind)
    (hash : Word) where
  settings : Settings
  found : Withdrawal
  token : Token
  payout : Amount
  attached : Amount
  settings_eq : s.bridge.settings = some settings
  /-- A pause stops every payout. -/
  running : settings.paused = false
  found_eq : s.bridge.withdrawals.get? hash = some found
  /-- The record is approved, not vetoed, not paid, and out of its window. -/
  executable :
    found.marks.status settings.reviewWindow s.now.seconds = .executable
  token_eq : s.bridge.tokens.get? found.token = some token
  enabled : token.enabled = true
  /-- The request is the one for the token's kind. -/
  kind_eq : token.kind = kind
  /-- The amount fits in the decimals of this chain. -/
  payout_eq :
    rescale found.amount found.srcDecimals found.destDecimals = .ok payout
  /-- All coins that came along are the bridge's own. -/
  denoms : ∀ coin ∈ funds, coin.denom = settings.nativeDenom
  attached_eq :
    (funds.map fun coin => coin.amount.toNat).sum = attached.toNat
  /-- A fee that is nothing, or inside the payout, is not paid again. -/
  no_fee_due : found.fee.toNat = 0 ∨ found.deductFee = true →
    attached.toNat = 0
  /-- A fee beside the payout is attached in full, or more. -/
  fee_covered : found.fee.toNat ≠ 0 → found.deductFee = false →
    found.fee.toNat ≤ attached.toNat
  /-- What is held is paid out of the ledger only. -/
  locked : kind = .lockUnlock →
    payout.toNat ≤ (s.bridge.lockedBalance found.token).toNat
  /-- Before anything is sent both balances are noted, so the token has to
  answer for them. -/
  answered : (found.remainder payout).toNat ≠ 0 →
    ∃ thisBefore accountBefore,
      s.context.balance token Session.bridgeAddress = .ok thisBefore
        ∧ s.context.balance token found.recipient = .ok accountBefore

/-- What a payout does: the messages to the recipient, the messages for the
fee, and the bridge it leaves. -/
structure PayoutTerms.Made {s : Session} {funds : List Coin}
    {kind : TokenKind} {hash : Word} (terms : PayoutTerms s funds kind hash)
    (sent paid : List Dispatch) (after : Bridge) : Prop where
  /-- What the recipient gets and a fee inside the payout are the payout. -/
  split : (terms.found.remainder terms.payout).toNat
    + (if terms.found.deductFee then terms.found.fee.toNat else 0)
      = terms.payout.toNat
  /-- A recipient who gets nothing gets no message. -/
  nothing_sent : (terms.found.remainder terms.payout).toNat = 0 →
    sent = [] ∧ after.inFlight = none
  /-- Otherwise one message releases the remainder, and waits for its
  report. -/
  sent_eq : (terms.found.remainder terms.payout).toNat ≠ 0 →
    sent = [.awaited (terms.token.releaseMessage terms.found.recipient
        (terms.found.remainder terms.payout))]
      ∧ ∃ thisBefore accountBefore,
        s.context.balance terms.token Session.bridgeAddress = .ok thisBefore
        ∧ s.context.balance terms.token terms.found.recipient
          = .ok accountBefore
        ∧ after.inFlight = some ⟨kind.release, terms.token,
            terms.found.recipient, terms.found.remainder terms.payout,
            thisBefore, accountBefore⟩
  /-- No fee, no message for it. -/
  no_fee : terms.found.fee.toNat = 0 → paid = []
  /-- A fee inside the payout goes out in the coin that is paid. -/
  fee_deducted : terms.found.fee.toNat ≠ 0 → terms.found.deductFee = true →
    ∃ recipient, terms.found.feeRecipient = some recipient
      ∧ paid
        = [.plain (.send recipient (coins terms.found.fee terms.token.id))]
  /-- A fee beside it goes out as attached, with all that is over. -/
  fee_attached : terms.found.fee.toNat ≠ 0 → terms.found.deductFee = false →
    ∃ recipient, terms.found.feeRecipient = some recipient
      ∧ paid = [.plain (.send recipient
          (coins terms.attached terms.settings.nativeDenom))]
  /-- The ledger gives up the whole payout, the fee in it included. -/
  unlocked : kind = .lockUnlock → ∃ left : Amount,
    left.toNat + terms.payout.toNat
        = (s.bridge.lockedBalance terms.found.token).toNat
      ∧ after.locked = s.bridge.locked.insert terms.found.token left
  not_locked : kind = .mintBurn → after.locked = s.bridge.locked
  /-- Nothing else moves: one mark is set, and the rest is the ledger and what
  is in flight. -/
  frame : after = { s.bridge with
    withdrawals := s.bridge.withdrawals.insert hash
      { terms.found with
        marks := { terms.found.marks with executed := true } }
    locked := after.locked
    inFlight := after.inFlight }

-- ================================================================== the guards

/-- Coins of one denomination are accepted if their sum is an amount. -/
theorem nativeFunds_of_sum {denom : String} :
    ∀ {funds : List Coin} {start total : Amount},
      (∀ coin ∈ funds, coin.denom = denom) →
      start.toNat + (funds.map fun coin => coin.amount.toNat).sum
        = total.toNat →
      nativeFunds denom start funds = .ok total := by
  intro funds
  induction funds with
  | nil =>
      intro start total _ hsum
      rw [List.map_nil, List.sum_nil, Nat.add_zero] at hsum
      rw [Amount.ext hsum]
      rfl
  | cons coin rest ih =>
      intro start total hdenoms hsum
      rw [List.map_cons, List.sum_cons] at hsum
      have hlt : start.toNat + coin.amount.toNat < amountLimit := by
        have := total.toNat_lt
        omega
      have hadd : start.add? coin.amount = some ⟨_, hlt⟩ :=
        Amount.add?_eq_some_iff.mpr rfl
      unfold nativeFunds
      rw [if_neg (not_not_intro (hdenoms coin List.mem_cons_self)), hadd]
      refine ih (fun x hx => hdenoms x (List.mem_cons_of_mem _ hx)) ?_
      show start.toNat + coin.amount.toNat + _ = _
      omega

/-- What is left of a payout is its difference with the fee in it. -/
theorem Withdrawal.remainder_of_sub? {w : Withdrawal}
    {payout toRecipient : Amount}
    (h : payout.sub? w.deductedFee = some toRecipient) :
    w.remainder payout = toRecipient := by
  have hsplit := Amount.sub?_eq_some_iff.mp h
  apply Amount.ext
  rw [remainder, Amount.toNat_excess]
  omega

/-- Attached coins that pay the fee, and none where none is due, are the fee of
the caller. -/
theorem Withdrawal.callerFee_of_covered {w : Withdrawal} {attached : Amount}
    (no_fee_due : w.fee.toNat = 0 ∨ w.deductFee = true → attached.toNat = 0)
    (fee_covered : w.fee.toNat ≠ 0 → w.deductFee = false →
      w.fee.toNat ≤ attached.toNat) :
    w.callerFee attached = .ok attached := by
  unfold callerFee
  cases hdue : (w.deductFee || w.fee.isZero) with
  | true =>
      have hzero : attached.toNat = 0 := by
        rcases Bool.or_eq_true_iff.mp hdue with hd | hf
        · exact no_fee_due (.inr hd)
        · exact no_fee_due (.inl (Amount.isZero_iff.mp hf))
      rw [if_pos rfl, Amount.isZero_iff.mpr hzero,
        Amount.eq_zero_of_toNat hzero]
      rfl
  | false =>
      obtain ⟨hd, hf⟩ := Bool.or_eq_false_iff.mp hdue
      have hle : w.fee ≤ attached :=
        fee_covered (Amount.isZero_eq_false_iff.mp hf) hd
      rw [if_neg Bool.false_ne_true, decide_eq_true hle]
      rfl

/-- A token that is minted needs nothing locked; of any other the balance must
do. -/
theorem Bridge.unlockFor_accepted {b : Bridge} {kind : TokenKind}
    {token : Token} {amount : Amount}
    (locked : kind = .lockUnlock →
      amount.toNat ≤ (b.lockedBalance token.id).toNat) :
    ∃ b', b.unlockFor kind token amount = .ok b' := by
  cases kind with
  | mintBurn => exact ⟨b, rfl⟩
  | lockUnlock =>
      unfold unlockFor decreaseLocked Amount.sub?
      rw [if_pos (locked rfl)]
      exact ⟨_, rfl⟩

section

variable {s : Session} {funds : List Coin} {kind : TokenKind} {hash : Word}

/-- On its terms a payout is made. -/
theorem PayoutTerms.execute_accepted (terms : PayoutTerms s funds kind hash)
    (idle : s.bridge.inFlight = none)
    (kept : TokensKept s.bridge.tokens s.bridge.locked)
    (ordered : MarksOrdered s.bridge.withdrawals)
    (checked : s.bridge.withdrawals.Every (Checked s.bridge.tokens)) :
    ∃ result, s.bridge.execute s.context funds kind hash.toList
      = .ok result := by
  -- each step of the rule is shown to go through, in the order of the rule
  have hpayable : s.bridge.payable s.context hash = .ok terms.found := by
    rw [Bridge.payable_eq_report terms.found_eq terms.settings_eq
      (ordered _ _ terms.found_eq)]
    exact WithdrawalReport.payable_of_executable terms.executable
  have hpayout : terms.found.payout = .ok terms.payout :=
    mapError_eq_ok_iff.mpr terms.payout_eq
  obtain ⟨toRecipient, hsub⟩ := Option.ne_none_iff_exists'.mp
    ((checked _ _ terms.found_eq).sub?_deductedFee hpayout)
  have hremainder : terms.found.remainder terms.payout = toRecipient :=
    Withdrawal.remainder_of_sub? hsub
  have hattached : nativeFunds terms.settings.nativeDenom Amount.zero funds
      = .ok terms.attached := by
    refine nativeFunds_of_sum terms.denoms ?_
    rw [Amount.toNat_zero, Nat.zero_add]
    exact terms.attached_eq
  have hcaller :=
    Withdrawal.callerFee_of_covered terms.no_fee_due terms.fee_covered
  obtain ⟨fee, hfee⟩ := Option.ne_none_iff_exists'.mp
    (Withdrawal.add?_callerFee hcaller)
  have hlocked : kind = .lockUnlock → terms.payout.toNat
      ≤ (s.bridge.lockedBalance terms.token.id).toNat := by
    rw [kept.named terms.token_eq]
    exact terms.locked
  obtain ⟨b₁, hunlock⟩ := Bridge.unlockFor_accepted hlocked
  obtain ⟨-, hb₁⟩ := Bridge.unlockFor_eq_ok hunlock
  have hidle : b₁.inFlight = none := by rw [hb₁]; exact idle
  -- a coin is always held, so what is minted is a contract's token
  have hcontract : terms.token.kind = .mintBurn →
      terms.token.isNative = false := by
    intro hmint
    rw [Bool.eq_false_iff]
    intro hnative
    cases hmint.symm.trans (kept.held terms.token_eq hnative)
  have hanswered := terms.answered
  rw [hremainder] at hanswered
  have hrelease : ∃ result, Bridge.releaseCustody
      { b₁ with
        withdrawals := b₁.withdrawals.insert hash
          { terms.found with
            marks := { terms.found.marks with executed := true } } }
      s.context terms.token terms.found.recipient toRecipient = .ok result :=
    Bridge.releaseCustody_accepted hidle hcontract hanswered
  obtain ⟨result, hrelease⟩ := hrelease
  simp only [Bridge.execute, bind_eq_ok_iff, require_eq_ok_iff,
    pure_eq_ok_iff, ofOption_eq_ok_iff, exists_const,
    Bridge.loadSettings_eq_ok_iff, Bridge.loadToken_eq_ok_iff,
    hashOf_eq_ok_iff, Bool.not_eq_true', decide_eq_true_eq]
  exact ⟨_, terms.settings, terms.settings_eq, terms.running, hash, rfl,
    terms.found, hpayable, terms.token, ⟨terms.token_eq, terms.enabled⟩,
    terms.kind_eq, terms.payout, hpayout, toRecipient, hsub, terms.attached,
    hattached, terms.attached, hcaller, b₁, hunlock, _, hrelease, fee, hfee,
    rfl⟩

end

-- ================================================================ what is made

namespace Executed

variable {s : Session} {funds : List Coin} {kind : TokenKind} {hash : Word}
  {receipt : Receipt} {b' : Bridge}
  (told : Executed s.bridge s.context funds kind hash.toList receipt b')

/-- The hash of the payout is the one that was asked for. -/
theorem hash_eq : told.hash = hash :=
  Bytes.ext told.bytes_eq.symm

/-- The fee in the payout is the record's fee, if it is deducted at all. -/
theorem deductedFee_eq : told.found.deductedFee.toNat
    = if told.found.deductFee then told.found.fee.toNat else 0 := by
  cases hd : told.found.deductFee with
  | true =>
      rw [Withdrawal.deductedFee_of_deducts hd]
      rfl
  | false =>
      rw [Withdrawal.deductedFee_of_beside hd]
      rfl

theorem remainder_eq :
    told.found.remainder told.payout = told.toRecipient :=
  Withdrawal.remainder_of_sub? (Amount.sub?_eq_some_iff.mpr told.split)

/-- What is sent and noted for the recipient. -/
theorem delivered (idle : s.bridge.inFlight = none) :
    (told.toRecipient.toNat = 0 ∧ told.sent = [] ∧ b'.inFlight = none)
      ∨ (told.toRecipient.toNat ≠ 0
        ∧ told.sent = [.awaited (told.token.releaseMessage
            told.found.recipient told.toRecipient)]
        ∧ ∃ thisBefore accountBefore,
          s.context.balance told.token Session.bridgeAddress = .ok thisBefore
          ∧ s.context.balance told.token told.found.recipient
            = .ok accountBefore
          ∧ b'.inFlight = some ⟨kind.release, told.token,
              told.found.recipient, told.toRecipient, thisBefore,
              accountBefore⟩) := by
  rcases told.released with
    ⟨hzero, hsent, hflying⟩ | ⟨custody, hne, hrelease, hsent, hflying⟩
  · exact .inl ⟨hzero, hsent, hflying.trans idle⟩
  · obtain ⟨-, hmessage, hnote⟩ := Custody.release_eq_ok_iff.mp hrelease
    obtain ⟨hthis, haccount, hcheck⟩ := Custody.note_eq_ok_iff.mp hnote
    rw [hmessage] at hsent
    rw [told.kind_eq] at hcheck
    rw [hcheck] at hflying
    exact .inr ⟨hne, hsent, _, _, hthis, haccount, hflying⟩

/-- A payout that is made was made on its terms. -/
def terms (idle : s.bridge.inFlight = none)
    (kept : TokensKept s.bridge.tokens s.bridge.locked) :
    PayoutTerms s funds kind hash where
  settings := told.settings
  found := told.found
  token := told.token
  payout := told.payout
  attached := told.attached
  settings_eq := told.settings_eq
  running := told.running
  found_eq := by
    have hfound := told.found_eq
    rw [told.hash_eq] at hfound
    exact hfound
  executable := Marks.status_of_closed told.not_executed
    (Marks.live_iff.mpr ⟨told.approved, told.not_cancelled⟩) told.window_over
  token_eq := (Bridge.loadToken_eq_ok_iff.mp told.token_eq).1
  enabled := (Bridge.loadToken_eq_ok_iff.mp told.token_eq).2
  kind_eq := told.kind_eq
  payout_eq := mapError_eq_ok_iff.mp told.payout_eq
  denoms := (nativeFunds_eq_ok told.attached_eq).1
  attached_eq := by
    obtain ⟨-, hsum⟩ := nativeFunds_eq_ok told.attached_eq
    rw [Amount.toNat_zero, Nat.zero_add] at hsum
    exact hsum
  no_fee_due := fun hnone => told.no_fee_due hnone.symm
  fee_covered := fun _ hd => told.fee_covered hd
  locked := by
    intro hkind
    rw [← (kept.get?_of_loadToken told.token_eq).1]
    rcases told.locked_eq with ⟨-, left, hleft, -⟩ | ⟨hmint, -⟩
    · omega
    · cases hkind.symm.trans hmint
  answered := by
    intro hne
    rw [told.remainder_eq] at hne
    rcases told.delivered idle with
      ⟨hzero, -⟩ | ⟨-, -, thisBefore, accountBefore, hthis, haccount, -⟩
    · exact absurd hzero hne
    · exact ⟨thisBefore, accountBefore, hthis, haccount⟩

/-- The messages for the fee of a payout. -/
def feePaid : List Dispatch :=
  feeMessages told.found.feeRecipient (feeCoins told.token
    told.settings.nativeDenom told.found.deductedFee told.attached)

/-- No fee, no message. -/
theorem feePaid_of_nothing (nothing : told.found.fee.toNat = 0) :
    told.feePaid = [] := by
  have hdeducted : told.found.deductedFee.isZero = true := by
    rw [Amount.isZero_iff, told.deductedFee_eq, nothing, ite_self]
  have hattached : told.attached.isZero = true :=
    Amount.isZero_iff.mpr (told.no_fee_due (.inr nothing))
  unfold feePaid feeCoins
  rw [hdeducted, hattached]
  cases told.found.feeRecipient <;> rfl

/-- A deducted fee is sent in the coin that is paid out. -/
theorem feePaid_of_deducted {recipient : Address}
    (due : told.found.fee.toNat ≠ 0) (deducts : told.found.deductFee = true)
    (gets : told.found.feeRecipient = some recipient) :
    told.feePaid
      = [.plain (.send recipient (coins told.found.fee told.token.id))] := by
  unfold feePaid feeCoins
  rw [Withdrawal.deductedFee_of_deducts deducts, Amount.isZero_eq_false_iff.mpr due, gets]
  rfl

/-- A fee beside the payout is sent on as it was attached. -/
theorem feePaid_of_attached {recipient : Address}
    (due : told.found.fee.toNat ≠ 0) (beside : told.found.deductFee = false)
    (gets : told.found.feeRecipient = some recipient) :
    told.feePaid = [.plain (.send recipient
      (coins told.attached told.settings.nativeDenom))] := by
  have hattached : told.attached.isZero = false := by
    rw [Amount.isZero_eq_false_iff]
    have := told.fee_covered beside
    omega
  unfold feePaid feeCoins
  rw [Withdrawal.deductedFee_of_beside beside, hattached, gets]
  rfl

/-- And it did what its terms say. -/
theorem made (idle : s.bridge.inFlight = none)
    (kept : TokensKept s.bridge.tokens s.bridge.locked)
    (placed : s.bridge.withdrawals.Every (FeePlaced s.bridge.tokens)) :
    (told.terms idle kept).Made told.sent told.feePaid b' := by
  have hremainder := told.remainder_eq
  have hdelivered := told.delivered idle
  have hnamed := (kept.get?_of_loadToken told.token_eq).1
  -- a record with a fee names someone to get it, by its check at approval
  have hgets : told.found.fee.toNat ≠ 0 →
      ∃ recipient, told.found.feeRecipient = some recipient := by
    intro hdue
    rw [← Option.ne_none_iff_exists']
    exact fun hnobody =>
      hdue ((placed _ _ told.found_eq).recipient hnobody)
  refine ⟨?split, fun hzero => ?nothing, fun hne => ?something,
    told.feePaid_of_nothing, fun hdue hdeducts => ?deducted,
    fun hdue hbeside => ?attached, fun hkind => ?unlocked,
    fun hkind => ?minted, ?frame⟩
  case split =>
    show (told.found.remainder told.payout).toNat
      + (if told.found.deductFee then told.found.fee.toNat else 0) = _
    rw [hremainder, ← told.deductedFee_eq]
    exact told.split
  case nothing =>
    change (told.found.remainder told.payout).toNat = 0 at hzero
    rw [hremainder] at hzero
    rcases hdelivered with ⟨-, hsent, hflying⟩ | ⟨hne, -⟩
    · exact ⟨hsent, hflying⟩
    · exact absurd hzero hne
  case something =>
    change (told.found.remainder told.payout).toNat ≠ 0 at hne
    rw [hremainder] at hne
    rcases hdelivered with
      ⟨hzero, -⟩ | ⟨-, hsent, thisBefore, accountBefore, hthis, haccount,
        hflying⟩
    · exact absurd hzero hne
    · rw [← hremainder] at hsent hflying
      exact ⟨hsent, thisBefore, accountBefore, hthis, haccount, hflying⟩
  case deducted =>
    obtain ⟨recipient, hrecipient⟩ := hgets hdue
    exact ⟨recipient, hrecipient,
      told.feePaid_of_deducted hdue hdeducts hrecipient⟩
  case attached =>
    obtain ⟨recipient, hrecipient⟩ := hgets hdue
    exact ⟨recipient, hrecipient,
      told.feePaid_of_attached hdue hbeside hrecipient⟩
  case unlocked =>
    rcases told.locked_eq with ⟨-, left, hleft, hlocked⟩ | ⟨hmint, -⟩
    · rw [hnamed] at hleft hlocked
      exact ⟨left, hleft, hlocked⟩
    · cases hkind.symm.trans hmint
  case minted =>
    rcases told.locked_eq with ⟨hheld, -⟩ | ⟨-, hlocked⟩
    · cases hkind.symm.trans hheld
    · exact hlocked
  case frame =>
    have hafter := told.after
    rw [told.hash_eq] at hafter
    exact hafter

end Executed

-- ================================================================== every run

theorem Bridge.handle_payoutFor {b : Bridge} {c : Context} {sender : Address}
    {funds : List Coin} {kind : TokenKind} {bytes : List UInt8} :
    b.handle c sender funds (.payoutFor kind bytes)
      = b.execute c funds kind bytes := by
  cases kind <;> rfl

/-- While nothing is in flight, a payout is made exactly if its terms hold.
It does not matter who asks for it. What is left after a deducted fee goes to
the recipient, what is due for the fee goes to the recipient of the fee, and
beside the mark on the record only the locked balance and the movement in
flight change. -/
theorem Run.payout_exact {r : Run} (idle : r.last.bridge.inFlight = none)
    (funds : List Coin) (kind : TokenKind) (hash : Word) :
    (∀ sender, r.last.Accepts sender funds (.payoutFor kind hash.toList) ↔
        Nonempty (PayoutTerms r.last funds kind hash))
      ∧ (∀ sender sender',
          r.last.step (.take sender funds (.payoutFor kind hash.toList))
            = r.last.step (.take sender' funds (.payoutFor kind hash.toList)))
      ∧ ∀ sender receipt,
          (r.last.step
              (.take sender funds (.payoutFor kind hash.toList))).2
            = .ok (.receipt receipt) →
          ∃ (terms : PayoutTerms r.last funds kind hash)
            (sent paid : List Dispatch), receipt.messages = sent ++ paid
              ∧ terms.Made sent paid (r.last.step
                  (.take sender funds (.payoutFor kind hash.toList))).1.bridge
    := by
  have hkept := (tokensKept_invariant.throughout r).now
  have hplaced := (feesPlaced_invariant.throughout r).now
  obtain ⟨hordered, hchecked⟩ := (checked_invariant.throughout r).now
  have htold : ∀ {receipt b'}, r.last.bridge.execute r.last.context funds kind
      hash.toList = .ok (receipt, b') →
      ∃ (terms : PayoutTerms r.last funds kind hash)
        (sent paid : List Dispatch),
        receipt.messages = sent ++ paid ∧ terms.Made sent paid b' := by
    -- an accepted payout is read back into its terms and what it made
    intro receipt b' h
    obtain ⟨told⟩ := Bridge.executed_of_execute h
    exact ⟨told.terms idle hkept, told.sent, told.feePaid, told.messages,
      told.made idle hkept hplaced⟩
  refine ⟨fun sender => ?accepted, fun sender sender' => ?anyone,
    fun sender receipt hresponse => ?made⟩
  case accepted =>
    rw [Session.accepts_iff idle, Bridge.handle_payoutFor]
    constructor
    · rintro ⟨⟨receipt, b'⟩, h⟩
      obtain ⟨terms, -⟩ := htold h
      exact ⟨terms⟩
    · rintro ⟨terms⟩
      exact terms.execute_accepted idle hkept hordered hchecked
  case anyone => cases kind <;> rfl
  case made =>
    obtain ⟨receipt', htake, hreceipt⟩ := map_eq_ok_iff.mp hresponse
    cases hreceipt
    obtain ⟨b', hb'⟩ := Session.take_eq_ok htake
    have htaken : r.last.takenBy (.take sender funds
        (.payoutFor kind hash.toList)) = some _ := Session.taken?_of_ok hb'
    rw [Session.step_of_takenBy htaken]
    simp only [Bridge.take, Bridge.handle_payoutFor, bind_eq_ok_iff] at hb'
    obtain ⟨_, -, hexecute⟩ := hb'
    exact htold hexecute

/-- The sample payout, by anybody. -/
def Sample.payoutBy (sender : Address) : Session.Step :=
  .take sender [] (.payoutFor .mintBurn Sample.hash.toList)

/-- The sample withdrawal after its review: anybody can have it paid, and the
payout does what its terms say. -/
theorem Run.payout_exact_after_review :
    Sample.reviewed.last.bridge.inFlight = none
      ∧ (∀ sender, Sample.reviewed.last.Accepts sender []
        (.payoutFor .mintBurn Sample.hash.toList))
      ∧ ∃ (terms : PayoutTerms Sample.reviewed.last [] .mintBurn Sample.hash)
          (sent paid : List Dispatch), terms.Made sent paid
            (Sample.reviewed.last.step (Sample.payoutBy "anyone")).1.bridge
    := by
  have hstate : Sample.reviewed.last.bridge.inFlight = none
      ∧ (Sample.reviewed.last.takenBy (Sample.payoutBy "anyone")).isSome
        = true := by
    rw [Sample.last_reviewed]
    decide +kernel
  obtain ⟨hidle, htaken⟩ := hstate
  obtain ⟨t, ht⟩ := Option.isSome_iff_exists.mp htaken
  have hresponse : (Sample.reviewed.last.step (Sample.payoutBy "anyone")).2
      = .ok (.receipt t.receipt) :=
    congrArg Prod.snd (Session.step_of_takenBy ht)
  obtain ⟨haccepted, -, hmade⟩ :=
    Run.payout_exact hidle [] .mintBurn Sample.hash
  unfold Sample.payoutBy at hresponse ⊢
  obtain ⟨terms, sent, paid, -, hpaid⟩ := hmade "anyone" t.receipt hresponse
  exact ⟨hidle, fun sender => (haccepted sender).mpr ⟨terms⟩, terms, sent,
    paid, hpaid⟩

end TokenBridge
