/-
What a submission, an approval, a veto and a reversal tell when they
succeed.

Each rule of the review gets one record: what it found in the bridge, which
conditions held, the whole state it left and the messages it sent. A proof
about a run takes the record of a step and never opens the rule again; a
change of a rule changes its record and the one lemma that builds it.
-/
import TokenBridge.Proofs.State
import TokenBridge.Proofs.Table
import TokenBridge.Reviewing

namespace TokenBridge

open Outcome

variable {b b' : Bridge} {c : Context} {sender : Address}
  {funds : List Coin} {receipt : Receipt}

-- ================================================================== reading

/-- Bytes name a withdrawal if there are thirty-two of them. -/
theorem hashOf_eq_ok_iff {bytes : List UInt8} {hash : Word} :
    hashOf bytes = .ok hash ↔ bytes = hash.toList := by
  unfold hashOf
  rw [← Bytes.ofList?_eq_some_iff]
  cases Bytes.ofList? 32 bytes with
  | none => simp
  | some w => simp

/-- A withdrawal is read as it stands under its hash. -/
theorem Bridge.loadWithdrawal_eq_ok_iff {hash : Word} {w : Withdrawal} :
    b.loadWithdrawal hash = .ok w ↔ b.withdrawals.get? hash = some w := by
  unfold loadWithdrawal
  cases b.withdrawals.get? hash with
  | none => simp
  | some w₀ => simp

/-- A withdrawal may be approved while no other holds its chain and nonce. -/
theorem Bridge.requireUnclaimed_eq_ok_iff {w : Withdrawal} {u : Unit} :
    b.requireUnclaimed w = .ok u ↔ b.claims.contains w.claim = false := by
  unfold requireUnclaimed
  rw [require_eq_ok_iff, Bool.not_eq_true']

/-- A review is open by the settings as they are now and by the mark that the
approval left. -/
theorem Bridge.requireOpenWindow_eq_ok_iff {w : Withdrawal} {u : Unit} :
    b.requireOpenWindow c w = .ok u ↔
      ∃ s, b.settings = some s ∧
        ReviewWindow.isOpen w.marks.approvedAt s.reviewWindow c.now
          = true := by
  simp only [requireOpenWindow, bind_eq_ok_iff, require_eq_ok_iff,
    loadSettings_eq_ok_iff]

/-- Attached coins are accepted only if all are of one denomination, and
then their sum is what they are worth. -/
theorem nativeFunds_eq_ok {denom : String} :
    ∀ {funds : List Coin} {start total : Amount},
      nativeFunds denom start funds = .ok total →
      (∀ coin ∈ funds, coin.denom = denom)
        ∧ start.toNat + (funds.map fun coin => coin.amount.toNat).sum
            = total.toNat := by
  intro funds
  induction funds with
  | nil =>
      intro start total h
      cases h
      exact ⟨fun coin hc => absurd hc List.not_mem_nil, rfl⟩
  | cons coin rest ih =>
      intro start total h
      unfold nativeFunds at h
      split at h
      case isTrue => cases h
      case isFalse hdenom =>
        -- a sum that is no amount is refused
        cases hadd : start.add? coin.amount with
        | none => rw [hadd] at h; cases h
        | some next =>
            rw [hadd] at h
            obtain ⟨hall, hsum⟩ := ih h
            have hnext := Amount.add?_eq_some_iff.mp hadd
            refine ⟨fun x hx => ?_, ?_⟩
            · rcases List.mem_cons.mp hx with rfl | hx
              · exact Decidable.not_not.mp hdenom
              · exact hall x hx
            · rw [List.map_cons, List.sum_cons]
              omega

-- =============================================================== submitting

/-- What a submission that is taken tells. -/
structure Submitted (b : Bridge) (c : Context) (funds : List Coin)
    (s : Submission) (receipt : Receipt) (b' : Bridge) where
  settings : Settings
  hash : Word
  token : Token
  counterpart : Counterpart
  record : Withdrawal
  settings_eq : b.settings = some settings
  running : settings.paused = false
  amount_ne : s.amount.toNat ≠ 0
  srcChain_eq : b.registeredChain s.srcChain = .ok record.srcChain
  srcAccount_eq : srcAccountOf s.srcAccount = .ok record.srcAccount
  recipient_eq : checkAddress s.recipient = .ok record.recipient
  account_eq : localAccount record.recipient = .ok record.destAccount
  token_eq : b.loadToken s.token = .ok token
  counterpart_eq :
    b.loadCounterpart s.token record.srcChain = .ok counterpart
  decimals_eq : counterpart.decimals = s.srcDecimals
  tip_eq : nativeFunds settings.nativeDenom Amount.zero funds
    = .ok record.tip
  /-- What of the record is neither read nor checked above. -/
  record_eq : record =
    { srcChain := record.srcChain, srcAccount := record.srcAccount,
      destAccount := record.destAccount, token := s.token,
      recipient := record.recipient, amount := s.amount, nonce := s.nonce,
      srcDecimals := s.srcDecimals, destDecimals := token.decimals,
      tip := record.tip, fee := Amount.zero, feeRecipient := none,
      deductFee := false, submittedAt := c.now,
      marks := ⟨false, false, false, 0⟩ }
  hash_eq : hash = (record.transfer settings.thisChain).hash
  fresh : b.withdrawals.get? hash = none
  messages : receipt.messages = []
  after : b' = { b with withdrawals := b.withdrawals.insert hash record }

/-- What an accepted submission has checked and written. It sends nothing and
moves no token. -/
theorem Bridge.submitted_of_submit {s : Submission}
    (h : b.submit c funds s = .ok (receipt, b')) :
    Nonempty (Submitted b c funds s receipt b') := by
  simp only [submit, bind_eq_ok_iff, require_eq_ok_iff, pure_eq_ok_iff,
    loadSettings_eq_ok_iff, exists_const, Prod.mk.injEq] at h
  obtain ⟨settings, hs, hrun, hamount, chain, hchain, account, haccount,
    recipient, hrecipient, dest, hdest, token, htoken, counterpart,
    hcounterpart, hdecimals, hfresh, tip, htip, hreceipt, hb⟩ := h
  rw [Bool.not_eq_true'] at hrun hamount hfresh
  exact ⟨{
    settings, token, counterpart
    record :=
      { srcChain := chain, srcAccount := account, destAccount := dest,
        token := s.token, recipient, amount := s.amount, nonce := s.nonce,
        srcDecimals := s.srcDecimals, destDecimals := token.decimals, tip,
        fee := Amount.zero, feeRecipient := none, deductFee := false,
        submittedAt := c.now, marks := ⟨false, false, false, 0⟩ }
    hash := _
    settings_eq := hs
    running := hrun
    amount_ne := Amount.isZero_eq_false_iff.mp hamount
    srcChain_eq := hchain
    srcAccount_eq := haccount
    recipient_eq := hrecipient
    account_eq := hdest
    token_eq := htoken
    counterpart_eq := hcounterpart
    decimals_eq := of_decide_eq_true hdecimals
    tip_eq := htip
    record_eq := rfl
    hash_eq := rfl
    fresh := Table.contains_eq_false_iff.mp hfresh
    messages := by rw [← hreceipt]; rfl
    after := hb.symm }⟩

-- ================================================================ approving

/-- A withdrawal with the fee an approval asks for, if it asks for one. -/
def Bridge.charged (b : Bridge) (w : Withdrawal) :
    Option ApprovalFee → Outcome Withdrawal
  | none => .ok w
  | some fee => b.withFee w fee

/-- What putting a fee on a withdrawal tells: a coin bears its fee out of
the payout, which covers it, a token of a contract never does. -/
theorem Bridge.withFee_eq_ok {w charged : Withdrawal} {fee : ApprovalFee}
    (h : b.withFee w fee = .ok charged) :
    ∃ token recipient, b.loadToken w.token = .ok token
      ∧ fee.deduct = token.isNative
      ∧ (fee.deduct = true →
          ∃ payout, w.payout = .ok payout ∧ fee.amount ≤ payout)
      ∧ checkAddress fee.recipient = .ok recipient
      ∧ charged = { w with
          fee := fee.amount, feeRecipient := some recipient,
          deductFee := fee.deduct } := by
  simp only [withFee, bind_eq_ok_iff, require_eq_ok_iff, exists_const]
    at h
  obtain ⟨token, htoken, hdeduct, hplain, h⟩ := h
  -- the flag has to agree with the kind of the token, both ways
  have hkind : fee.deduct = token.isNative := by
    revert hdeduct hplain
    cases fee.deduct <;> cases token.isNative <;> simp
  cases hd : fee.deduct with
  | true =>
      simp only [hd, if_true, bind_eq_ok_iff, require_eq_ok_iff,
        pure_eq_ok_iff, exists_const, decide_eq_true_eq] at h
      obtain ⟨payout, hpayout, hle, recipient, hrecipient, rfl⟩ := h
      exact ⟨token, recipient, htoken, by rw [← hkind, hd],
        fun _ => ⟨payout, hpayout, hle⟩, hrecipient, rfl⟩
  | false =>
      simp only [hd, Bool.false_eq_true, if_false, bind_eq_ok_iff,
        pure_eq_ok_iff] at h
      obtain ⟨recipient, hrecipient, rfl⟩ := h
      exact ⟨token, recipient, htoken, by rw [← hkind, hd],
        fun ht => absurd ht (by decide), hrecipient, rfl⟩

/-- A fee changes nothing of a withdrawal but the fee. -/
theorem Bridge.charged_eq_ok {w charged : Withdrawal}
    {fee : Option ApprovalFee} (h : b.charged w fee = .ok charged) :
    charged = { w with
      fee := charged.fee, feeRecipient := charged.feeRecipient,
      deductFee := charged.deductFee } := by
  cases fee with
  | none => cases h; rfl
  | some fee =>
      obtain ⟨token, recipient, -, -, -, -, rfl⟩ := withFee_eq_ok h
      rfl

/-- The tip goes to the operator who approves. -/
def tipMessages (w : Withdrawal) (operator : Address) (denom : String) :
    List Dispatch :=
  if w.tip.isZero then []
  else [.plain (.send operator (coins w.tip denom))]

/-- What an approval that is taken tells. -/
structure Approved (b : Bridge) (c : Context) (sender : Address)
    (bytes : List UInt8) (fee : Option ApprovalFee) (receipt : Receipt)
    (b' : Bridge) where
  settings : Settings
  hash : Word
  found : Withdrawal
  charged : Withdrawal
  operator : b.operators.contains sender = true
  settings_eq : b.settings = some settings
  bytes_eq : bytes = hash.toList
  found_eq : b.withdrawals.get? hash = some found
  not_executed : found.marks.executed = false
  not_approved : found.marks.approved = false
  /-- No other record holds the claim. -/
  unclaimed : b.claims.contains found.claim = false
  /-- The fee is on the record before it is marked. -/
  charged_eq : b.charged found fee = .ok charged
  messages :
    receipt.messages = tipMessages found sender settings.nativeDenom
  after : b' = { b with
    withdrawals := b.withdrawals.insert hash
      { charged with
        marks := { found.marks with approved := true, approvedAt := c.now } }
    claims := b.claims.insert found.claim () }

/-- What an accepted approval has checked and written, with a fee or without
one. The two branches differ in the record that is marked, so that is what is
first brought out of them. -/
theorem Bridge.approved_of_approve {bytes : List UInt8}
    {fee : Option ApprovalFee}
    (h : b.approve c sender bytes fee = .ok (receipt, b')) :
    Nonempty (Approved b c sender bytes fee receipt b') := by
  have hchain : ∃ settings hash found charged,
      b.operators.contains sender = true ∧ b.settings = some settings
        ∧ bytes = hash.toList ∧ b.withdrawals.get? hash = some found
        ∧ (!found.marks.executed) = true ∧ (!found.marks.approved) = true
        ∧ b.claims.contains found.claim = false
        ∧ b.charged found fee = .ok charged
        ∧ receipt.messages = tipMessages charged sender settings.nativeDenom
        ∧ b.keepClaiming hash
            { charged with
              marks := { charged.marks with
                approved := true, approvedAt := c.now } } = b' := by
    simp only [approve, bind_eq_ok_iff, require_eq_ok_iff, exists_const,
      requireOperator, requireUnclaimed_eq_ok_iff, hashOf_eq_ok_iff,
      loadSettings_eq_ok_iff, loadWithdrawal_eq_ok_iff] at h
    obtain ⟨hop, settings, hs, hash, hbytes, found, hfound, hexec, happ,
      hfree, h⟩ := h
    cases fee with
    | none =>
        simp only [bind_eq_ok_iff, pure_eq_ok_iff, Prod.mk.injEq] at h
        obtain ⟨charged, rfl, rfl, hb⟩ := h
        exact ⟨settings, hash, found, found, hop, hs, hbytes, hfound, hexec,
          happ, hfree, rfl, rfl, hb⟩
    | some fee =>
        simp only [bind_eq_ok_iff, pure_eq_ok_iff, Prod.mk.injEq] at h
        obtain ⟨charged, hcharged, rfl, hb⟩ := h
        exact ⟨settings, hash, found, charged, hop, hs, hbytes, hfound,
          hexec, happ, hfree, hcharged, rfl, hb⟩
  obtain ⟨settings, hash, found, charged, hop, hs, hbytes, hfound, hexec,
    happ, hfree, hcharged, hmessages, hb⟩ := hchain
  rw [Bool.not_eq_true'] at hexec happ
  -- a charge sets the fee and nothing that the approval looks at later
  have hsame := charged_eq_ok hcharged
  have htip : charged.tip = found.tip := by rw [hsame]
  have hmarks : charged.marks = found.marks := by rw [hsame]
  have hclaim : charged.claim = found.claim := by rw [hsame]; rfl
  refine ⟨⟨settings, hash, found, charged, hop, hs, hbytes, hfound, hexec,
    happ, hfree, hcharged, ?_, ?_⟩⟩
  · rw [hmessages, tipMessages, tipMessages, htip]
  · rw [← hb, Bridge.keepClaiming, hmarks, ← hclaim]
    rfl

-- =================================================================== vetoes

/-- What a veto that is taken tells. -/
structure Vetoed (b : Bridge) (c : Context) (sender : Address)
    (bytes : List UInt8) (receipt : Receipt) (b' : Bridge) where
  settings : Settings
  hash : Word
  found : Withdrawal
  canceler : b.cancelers.contains sender = true
  settings_eq : b.settings = some settings
  bytes_eq : bytes = hash.toList
  found_eq : b.withdrawals.get? hash = some found
  not_executed : found.marks.executed = false
  approved : found.marks.approved = true
  not_cancelled : found.marks.cancelled = false
  window_open : ReviewWindow.isOpen found.marks.approvedAt
    settings.reviewWindow c.now = true
  messages : receipt.messages = []
  /-- The veto gives the claim up. -/
  after : b' = { b with
    withdrawals := b.withdrawals.insert hash
      { found with marks := { found.marks with cancelled := true } }
    claims := b.claims.erase found.claim }

/-- What an accepted veto has checked and written: the mark, and the claim of
the withdrawal struck. -/
theorem Bridge.vetoed_of_cancel {bytes : List UInt8}
    (h : b.cancel c sender bytes = .ok (receipt, b')) :
    Nonempty (Vetoed b c sender bytes receipt b') := by
  simp only [cancel, bind_eq_ok_iff, require_eq_ok_iff, pure_eq_ok_iff,
    exists_const, requireCanceler, requireOpenWindow_eq_ok_iff,
    hashOf_eq_ok_iff, loadWithdrawal_eq_ok_iff, Prod.mk.injEq] at h
  obtain ⟨hcan, hash, hbytes, found, hfound, hexec, happ, hveto,
    ⟨settings, hs, hopen⟩, rfl, hb⟩ := h
  rw [Bool.not_eq_true'] at hexec hveto
  exact ⟨⟨settings, hash, found, hcan, hs, hbytes, hfound, hexec, happ,
    hveto, hopen, rfl, hb.symm⟩⟩

/-- What a reversal of a veto that is taken tells. -/
structure Restored (b : Bridge) (c : Context) (sender : Address)
    (bytes : List UInt8) (receipt : Receipt) (b' : Bridge) where
  settings : Settings
  hash : Word
  found : Withdrawal
  operator : b.operators.contains sender = true
  settings_eq : b.settings = some settings
  bytes_eq : bytes = hash.toList
  found_eq : b.withdrawals.get? hash = some found
  not_executed : found.marks.executed = false
  cancelled : found.marks.cancelled = true
  window_open : ReviewWindow.isOpen found.marks.approvedAt
    settings.reviewWindow c.now = true
  /-- Another record may have taken the claim in the meantime. -/
  unclaimed : b.claims.contains found.claim = false
  messages : receipt.messages = []
  /-- The window begins anew, and the claim is taken again. -/
  after : b' = { b with
    withdrawals := b.withdrawals.insert hash
      { found with
        marks :=
          { found.marks with cancelled := false, approvedAt := c.now } }
    claims := b.claims.insert found.claim () }

/-- What an accepted end of a veto has checked and written: the review begins
anew, with the claim taken again. -/
theorem Bridge.restored_of_uncancel {bytes : List UInt8}
    (h : b.uncancel c sender bytes = .ok (receipt, b')) :
    Nonempty (Restored b c sender bytes receipt b') := by
  simp only [uncancel, bind_eq_ok_iff, require_eq_ok_iff, pure_eq_ok_iff,
    exists_const, requireOperator, requireOpenWindow_eq_ok_iff,
    requireUnclaimed_eq_ok_iff, hashOf_eq_ok_iff, loadWithdrawal_eq_ok_iff,
    Prod.mk.injEq] at h
  obtain ⟨hop, hash, hbytes, found, hfound, hexec, hveto,
    ⟨settings, hs, hopen⟩, hfree, rfl, hb⟩ := h
  rw [Bool.not_eq_true'] at hexec
  exact ⟨⟨settings, hash, found, hop, hs, hbytes, hfound, hexec, hveto,
    hopen, hfree, rfl, hb.symm⟩⟩

end TokenBridge
