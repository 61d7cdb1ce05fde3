/-
The record of a withdrawal: what it always says, and what of it never
changes.

Under one hash a request can do six things, and `RecordMoved` lists them:
the record is put down, approved, vetoed, restored or paid, or it is left
alone. What is fixed by the submission is the record without its fee and
its marks (`Withdrawal.asSubmitted`), and five of the six leave that as it
is; the sixth finds nothing to change. A report that is refused brings back
an older state, but what waits for a report is never a submission, so the
records are the same ones there.

The fee is checked once, at the approval, against the payout and the
nature of the token. Vetoes, reversals and payouts change neither the fee
nor what it was checked against, and the registry keeps the nature and the
decimals of every token, so the check holds from then on.
-/
import TokenBridge.Proofs.Registry
import TokenBridge.Proofs.TwoBridges

namespace TokenBridge

-- =============================================================== one record

/-- What a request does to the record under a hash. -/
inductive RecordMoved (b : Bridge) (c : Context) (sender : Address)
    (funds : List Coin) (receipt : Receipt) (b' : Bridge) (hash : Word) :
    Request → Prop
  /-- The request is of another record, or of none. -/
  | kept {r : Request}
      (same : b'.withdrawals.get? hash = b.withdrawals.get? hash) :
      RecordMoved b c sender funds receipt b' hash r
  /-- Nothing was on record, and now the submission is. -/
  | submitted {s : Submission} (told : Submitted b c funds s receipt b')
      (here : told.hash = hash)
      (after : b'.withdrawals.get? hash = some told.record) :
      RecordMoved b c sender funds receipt b' hash (.submit s)
  /-- The fee is put on and the time of the approval noted. -/
  | approved {bytes : List UInt8} {fee : Option ApprovalFee}
      (told : Approved b c sender bytes fee receipt b')
      (here : told.hash = hash)
      (after : b'.withdrawals.get? hash = some { told.charged with
        marks := { told.found.marks with
          approved := true, approvedAt := c.now } }) :
      RecordMoved b c sender funds receipt b' hash (.approve bytes fee)
  /-- The veto is one more mark. -/
  | vetoed {bytes : List UInt8} (told : Vetoed b c sender bytes receipt b')
      (here : told.hash = hash)
      (after : b'.withdrawals.get? hash = some { told.found with
        marks := { told.found.marks with cancelled := true } }) :
      RecordMoved b c sender funds receipt b' hash (.cancel bytes)
  /-- The veto is gone, and the time is that of the reversal. -/
  | restored {bytes : List UInt8}
      (told : Restored b c sender bytes receipt b')
      (here : told.hash = hash)
      (after : b'.withdrawals.get? hash = some { told.found with
        marks := { told.found.marks with
          cancelled := false, approvedAt := c.now } }) :
      RecordMoved b c sender funds receipt b' hash (.uncancel bytes)
  /-- Payment is one mark and touches nothing else of the record. -/
  | paid {r : Request} {kind : TokenKind} {bytes : List UInt8}
      (asks : r.payoutOf = some bytes)
      (told : Executed b c funds kind bytes receipt b')
      (here : told.hash = hash)
      (after : b'.withdrawals.get? hash = some { told.found with
        marks := { told.found.marks with executed := true } }) :
      RecordMoved b c sender funds receipt b' hash r

section

variable {b b' : Bridge} {c : Context} {sender : Address}
  {funds : List Coin} {r : Request} {receipt : Receipt}

/-- A rule that writes one record writes it under its own hash or leaves
the record asked for alone. -/
theorem get?_of_written {hash : Word} {w : Withdrawal}
    (h : b'.withdrawals = b.withdrawals.insert hash w) (hash' : Word) :
    (hash = hash' ∧ b'.withdrawals.get? hash' = some w)
      ∨ b'.withdrawals.get? hash' = b.withdrawals.get? hash' := by
  rw [h, Table.get?_insert]
  by_cases hk : hash = hash'
  · exact .inl ⟨hk, if_pos hk⟩
  · exact .inr (if_neg hk)

/-- Every request that is handled moves every record so. -/
theorem Handled.record (h : Handled b c sender funds receipt b' r)
    (hash : Word) : RecordMoved b c sender funds receipt b' hash r := by
  cases h with
  | deposit brought told => exact .kept (by rw [told.after])
  | submit told =>
      rcases get?_of_written (congrArg Bridge.withdrawals told.after :) hash
        with ⟨here, after⟩ | same
      · exact .submitted told here after
      · exact .kept same
  | approve told =>
      rcases get?_of_written (congrArg Bridge.withdrawals told.after :) hash
        with ⟨here, after⟩ | same
      · exact .approved told here after
      · exact .kept same
  | cancel told =>
      rcases get?_of_written (congrArg Bridge.withdrawals told.after :) hash
        with ⟨here, after⟩ | same
      · exact .vetoed told here after
      · exact .kept same
  | uncancel told =>
      rcases get?_of_written (congrArg Bridge.withdrawals told.after :) hash
        with ⟨here, after⟩ | same
      · exact .restored told here after
      · exact .kept same
  | execute asks told =>
      rcases get?_of_written (congrArg Bridge.withdrawals told.after :) hash
        with ⟨here, after⟩ | same
      · exact .paid asks told here after
      · exact .kept same
  | administer only told => exact .kept (by rw [told.frame])

end

-- ============================================================ what is fixed

/-- All of a withdrawal that is fixed when it is submitted. -/
def Withdrawal.asSubmitted (w : Withdrawal) : Withdrawal :=
  { w with
    fee := Amount.zero
    feeRecipient := none
    deductFee := false
    marks := ⟨false, false, false, 0⟩ }

/-- What is on record in one state is on record in another, as it was
submitted. -/
def RecordsKept (b b' : Bridge) : Prop :=
  ∀ hash w, b.withdrawals.get? hash = some w →
    ∃ w', b'.withdrawals.get? hash = some w'
      ∧ w'.asSubmitted = w.asSubmitted

/-- A table that is not written keeps all its records. -/
theorem RecordsKept.of_eq {b b' : Bridge}
    (h : b'.withdrawals = b.withdrawals) : RecordsKept b b' := by
  intro hash w hw
  exact ⟨w, by rw [h]; exact hw, rfl⟩

section

variable {b b' : Bridge} {c : Context} {sender : Address}
  {funds : List Coin} {r : Request} {receipt : Receipt}

/-- No request takes a record away or changes what is fixed of it. -/
theorem Handled.recordsKept (h : Handled b c sender funds receipt b' r) :
    RecordsKept b b' := by
  intro hash w hw
  cases h.record hash with
  | kept same => exact ⟨w, by rw [same]; exact hw, rfl⟩
  | submitted told here after =>
      subst here
      rw [told.fresh] at hw
      cases hw
  | approved told here after =>
      subst here
      rw [told.found_eq] at hw
      cases hw
      refine ⟨_, after, ?_⟩
      rw [Bridge.charged_eq_ok told.charged_eq]
      rfl
  | vetoed told here after =>
      subst here
      rw [told.found_eq] at hw
      cases hw
      exact ⟨_, after, rfl⟩
  | restored told here after =>
      subst here
      rw [told.found_eq] at hw
      cases hw
      exact ⟨_, after, rfl⟩
  | paid asks told here after =>
      subst here
      rw [told.found_eq] at hw
      cases hw
      exact ⟨_, after, rfl⟩

end

/-- A request that waits for a report has paid the withdrawal under a hash,
or left it as it was: a deposit writes no record. -/
theorem Taken.record_of_flying (t : Taken)
    (flying : t.after.inFlight.isSome = true) (hash : Word) :
    t.after.withdrawals.get? hash = t.before.bridge.withdrawals.get? hash
      ∨ ∃ (kind : TokenKind) (bytes : List UInt8)
          (told : Executed t.before.bridge t.before.context t.funds kind
            bytes t.receipt t.after),
          t.request.payoutOf = some bytes ∧ told.hash = hash
            ∧ t.after.withdrawals.get? hash = some { told.found with
              marks := { told.found.marks with executed := true } } := by
  rcases t.handled.deposited_or_executed t.idle flying with
    ⟨token, amount, destChain, destAccount, -, ⟨told⟩⟩
      | ⟨kind, bytes, asks, ⟨told⟩⟩
  · exact .inl (by rw [told.after])
  · rcases get?_of_written (congrArg Bridge.withdrawals told.after :) hash
      with ⟨here, after⟩ | same
    · exact .inr ⟨kind, bytes, told, asks, here, after⟩
    · exact .inl same

/-- Nor does undoing a request that waits for a report. -/
theorem Taken.recordsKept_of_undone (t : Taken)
    (flying : t.after.inFlight.isSome = true) :
    RecordsKept t.after t.before.bridge := by
  intro hash w hw
  rcases t.record_of_flying flying hash with
    same | ⟨kind, bytes, told, -, here, paid⟩
  · exact ⟨w, by rw [← same]; exact hw, rfl⟩
  · subst here
    rw [paid] at hw
    cases hw
    exact ⟨told.found, told.found_eq, rfl⟩

/-- No move of the session takes a record away or changes what is fixed of
it. -/
theorem Moved.recordsKept {s s' : Session} {h h' : History}
    (hm : Moved s h s' h') (hc : Coherent s h) (hh : Held s h) :
    RecordsKept s.bridge s'.bridge := by
  cases hm with
  | still bridge checkpoint => exact .of_eq (by rw [bridge])
  | migrated => exact .of_eq rfl
  | took t before =>
      subst before
      exact t.handled.recordsKept
  | accepted flying => exact .of_eq rfl
  | refused =>
      show RecordsKept s.bridge (s.checkpoint.getD s.bridge)
      rw [hc.pending]
      cases ht : h.pending with
      | none => exact .of_eq rfl
      | some t =>
          have hundone := t.recordsKept_of_undone (hh.flying hc ht)
          have hsame : s.bridge.withdrawals = t.after.withdrawals := by
            rw [hh t ht]
          intro hash w hw
          rw [hsame] at hw
          exact hundone hash w hw

-- =============================================================== the checks

/-- The token of a withdrawal is registered, and has a property. -/
def Withdrawal.TokenIs (tokens : Table String Token) (w : Withdrawal)
    (p : Token → Prop) : Prop :=
  ∃ token, tokens.get? w.token = some token ∧ p token

/-- The registry only switches what it has. -/
theorem Withdrawal.TokenIs.moved {tokens tokens' : Table String Token}
    {w : Withdrawal} {p : Token → Prop} (h : w.TokenIs tokens p)
    (hm : TokensMoved tokens tokens')
    (switch : ∀ token enabled, p token → p { token with enabled }) :
    w.TokenIs tokens' p := by
  obtain ⟨token, hfound, hp⟩ := h
  obtain ⟨enabled, hafter⟩ := hm.get? hfound
  exact ⟨_, hafter, switch token enabled hp⟩

/-- What was checked when a withdrawal was submitted or approved. -/
structure Checked (tokens : Table String Token) (w : Withdrawal) : Prop where
  /-- The word that is hashed is the recipient's. -/
  account : localAccount w.recipient = .ok w.destAccount
  amount : w.amount.toNat ≠ 0
  source : ∃ account, Account.ofWordStrict w.srcAccount = .ok account
  /-- What is paid counts in the decimals of the registered token. -/
  decimals : w.TokenIs tokens fun token => token.decimals = w.destDecimals
  /-- Before the approval there is neither a time nor a fee. -/
  unapproved : w.marks.approved = false →
    w.marks.approvedAt = 0 ∧ w.fee.toNat = 0 ∧ w.feeRecipient = none
      ∧ w.deductFee = false
  /-- A fee inside the payout is no more than it. -/
  covered : w.deductFee = true →
    ∃ payout, w.payout = .ok payout ∧ w.fee ≤ payout
  /-- Only a contract's token bears its fee beside it. -/
  beside : w.fee.toNat ≠ 0 → w.deductFee = false →
    w.TokenIs tokens fun token => token.isNative = false

namespace Checked

variable {tokens tokens' : Table String Token} {w : Withdrawal}

/-- Tokens move without losing what the check reads of them, so a check of the
past holds on. -/
theorem moved (h : Checked tokens w) (hm : TokensMoved tokens tokens') :
    Checked tokens' w where
  account := h.account
  amount := h.amount
  source := h.source
  decimals := h.decimals.moved hm fun _ _ hp => hp
  unapproved := h.unapproved
  covered := h.covered
  beside := fun hfee hd => (h.beside hfee hd).moved hm fun _ _ hp => hp

/-- Once it is approved, new marks leave a withdrawal checked. -/
theorem remark (h : Checked tokens w) {marks : Marks}
    (approved : marks.approved = true) :
    Checked tokens { w with marks } where
  account := h.account
  amount := h.amount
  source := h.source
  decimals := h.decimals
  unapproved := fun hnot => by
    rw [approved] at hnot
    cases hnot
  covered := h.covered
  beside := h.beside

/-- A submission makes all checks of the transfer, and sets no fee. -/
theorem submitted {b b' : Bridge} {c : Context} {funds : List Coin}
    {s : Submission} {receipt : Receipt}
    (told : Submitted b c funds s receipt b') :
    Checked b.tokens told.record where
  account := told.account_eq
  amount := by
    rw [told.record_eq]
    exact told.amount_ne
  source := by
    have hread := told.srcAccount_eq
    unfold srcAccountOf at hread
    split at hread
    · cases hread
    · split at hread
      next account haccount =>
        cases hread
        exact ⟨account, haccount⟩
      · cases hread
  decimals := by
    rw [told.record_eq]
    exact ⟨told.token, (Bridge.loadToken_eq_ok_iff.mp told.token_eq).1, rfl⟩
  unapproved := by
    rw [told.record_eq]
    exact fun _ => ⟨rfl, rfl, rfl, rfl⟩
  covered := by
    rw [told.record_eq]
    exact nofun
  beside := by
    rw [told.record_eq]
    exact fun hfee => absurd rfl hfee

/-- An approval checks its fee against the payout and the token. -/
theorem charged {b : Bridge} {charged : Withdrawal}
    {fee : Option ApprovalFee} (h : Checked b.tokens w)
    (hcharged : b.charged w fee = .ok charged) {marks : Marks}
    (approved : marks.approved = true) :
    Checked b.tokens { charged with marks } := by
  cases fee with
  | none =>
      cases hcharged
      exact h.remark approved
  | some fee =>
      obtain ⟨token, recipient, htoken, hkind, hcovered, -, rfl⟩ :=
        Bridge.withFee_eq_ok hcharged
      exact {
        account := h.account
        amount := h.amount
        source := h.source
        decimals := h.decimals
        unapproved := fun hnot => by
          rw [approved] at hnot
          cases hnot
        covered := hcovered
        beside := fun _ hd =>
          ⟨token, (Bridge.loadToken_eq_ok_iff.mp htoken).1,
            hkind.symm.trans hd⟩ }

end Checked

/-- Every record has passed its checks, and they go on holding. -/
theorem checked_invariant :
    Invariant fun _ b =>
      MarksOrdered b.withdrawals ∧ b.withdrawals.Every (Checked b.tokens) := by
  refine marksOrdered_invariant.extend ?opened ?kept (fun h => h)
  case opened =>
    intro o
    obtain ⟨settings, -, hb, -⟩ := Bridge.setUp_eq_ok o.success
    rw [hb]
    exact Table.every_empty _
  case kept =>
    intro b c sender funds receipt b' r idle handled hmarks h hash w hw
    have hmoved := handled.tokensMoved
    cases handled.record hash with
    -- a record stays checked while tokens move; each rule that writes one
    -- checks it anew or leaves what is checked alone
    | kept same =>
        rw [same] at hw
        exact (h hash w hw).moved hmoved
    | submitted told here after =>
        rw [after] at hw
        cases hw
        exact (Checked.submitted told).moved hmoved
    | approved told here after =>
        rw [after] at hw
        cases hw
        exact ((h _ _ told.found_eq).charged told.charged_eq rfl).moved hmoved
    | vetoed told here after =>
        rw [after] at hw
        cases hw
        refine Checked.moved ?_ hmoved
        exact (h _ _ told.found_eq).remark told.approved
    | restored told here after =>
        rw [after] at hw
        cases hw
        have happroved := (hmarks _ _ told.found_eq).approved_of_cancelled
          told.cancelled
        refine Checked.moved ?_ hmoved
        exact (h _ _ told.found_eq).remark happroved
    | paid asks told here after =>
        rw [after] at hw
        cases hw
        refine Checked.moved ?_ hmoved
        exact (h _ _ told.found_eq).remark told.approved

-- ============================================================= every record

/-- What a withdrawal on record under a hash says, on a chain with a
registry of tokens. -/
structure Withdrawal.WellFormed (chain : ChainId)
    (tokens : Table String Token) (hash : Word) (w : Withdrawal) : Prop where
  /-- It is filed under the hash of its own fields. -/
  hash_eq : hash = (w.transfer chain).hash
  account : localAccount w.recipient = .ok w.destAccount
  amount : 0 < w.amount.toNat
  source : ∃ account, Account.ofWordStrict w.srcAccount = .ok account
  decimals : w.TokenIs tokens fun token => token.decimals = w.destDecimals
  /-- Payment is of what is approved and not vetoed. -/
  executed : w.marks.executed = true →
    w.marks.approved = true ∧ w.marks.cancelled = false
  /-- And only what is approved is vetoed. -/
  cancelled : w.marks.cancelled = true → w.marks.approved = true
  unapproved : w.marks.approved = false →
    w.marks.approvedAt = 0 ∧ w.fee.toNat = 0 ∧ w.feeRecipient = none
      ∧ w.deductFee = false
  recipient : 0 < w.fee.toNat → ∃ account, w.feeRecipient = some account
  deducted : w.deductFee = true →
    w.TokenIs tokens (fun token => token.isNative = true)
      ∧ ∃ payout, w.payout = .ok payout ∧ w.fee ≤ payout
  beside : 0 < w.fee.toNat → w.deductFee = false →
    w.TokenIs tokens fun token => token.isNative = false

/-- At every moment of every run each record is well formed, and no step
takes it away or changes anything of it that its submission fixed. -/
theorem Run.withdrawals_well_formed (r : Run) {hash : Word} {w : Withdrawal}
    (stored : r.last.bridge.withdrawals.get? hash = some w) :
    (∃ settings, r.last.bridge.settings = some settings
        ∧ w.WellFormed settings.thisChain r.last.bridge.tokens hash)
      ∧ ∀ x hx, ∃ w',
        (r.extend x hx).last.bridge.withdrawals.get? hash = some w'
          ∧ w'.asSubmitted = w.asSubmitted := by
  obtain ⟨settings, hsettings, hhash⟩ :=
    (filed_invariant.throughout r).now hash w stored
  obtain ⟨hmarks, hchecked⟩ := (checked_invariant.throughout r).now
  have hordered := hmarks hash w stored
  have hplaced := (feesPlaced_invariant.throughout r).now hash w stored
  have hc := hchecked hash w stored
  refine ⟨⟨settings, hsettings, ?_⟩, fun x hx => ?_⟩
  · exact {
      hash_eq := hhash
      account := hc.account
      amount := Nat.pos_of_ne_zero hc.amount
      source := hc.source
      decimals := hc.decimals
      executed := fun h => Marks.live_iff.mp (hordered.live_of_executed h)
      cancelled := hordered.approved_of_cancelled
      unapproved := hc.unapproved
      recipient := fun hfee => Option.ne_none_iff_exists'.mp fun hnone =>
        Nat.ne_of_gt hfee (hplaced.recipient hnone)
      deducted := fun hd => ⟨hplaced.coin hd, hc.covered hd⟩
      beside := fun hfee => hc.beside (Nat.ne_of_gt hfee) }
  · exact (r.moved x hx).recordsKept r.coherent r.held hash w stored

/-- The record of a submission, and what an approval leaves of it. -/
theorem Run.submission_well_formed :
    Sample.submitted.last.bridge.withdrawals.get? Sample.hash
        = some Sample.record
      ∧ (∃ settings, Sample.submitted.last.bridge.settings = some settings
        ∧ Sample.record.WellFormed settings.thisChain
          Sample.submitted.last.bridge.tokens Sample.hash)
      ∧ ∃ w', Sample.approved.last.bridge.withdrawals.get? Sample.hash
          = some w'
        ∧ w'.asSubmitted = Sample.record.asSubmitted := by
  obtain ⟨hformed, hkept⟩ :=
    Run.withdrawals_well_formed Sample.submitted Sample.get?_submitted
  have happroval : ∀ setup, Sample.approval ≠ .setUp setup := by
    intro setup h
    cases h
  have happroved : Sample.approved
      = Sample.submitted.extend Sample.approval happroval := rfl
  refine ⟨Sample.get?_submitted, hformed, ?_⟩
  rw [happroved]
  exact hkept _ happroval

end TokenBridge
