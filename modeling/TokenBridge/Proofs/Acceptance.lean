/-
The reported status decides what is accepted.

Four rules and one question look at the marks of a withdrawal, each in an
order of its own: the status asks for the payout first and for the approval
last, a veto asks for the approval before the veto, an approval never asks
for a veto at all. That they agree is due to the order in which marks are
set. Of the eight ways three marks can stand five are left, and the window
splits one of these, so there is one status for each (`Marks.Standing`). For
each rule it is said which marks it accepts, and the rest is a look at these
cases.
-/
import TokenBridge.Proofs.Advice

namespace TokenBridge

open Outcome

-- ==================================================================== the marks

/-- How the marks of a record can stand, each case with its status. -/
inductive Marks.Standing (m : Marks) (window now : UInt64) : Status → Prop
  | submitted (executed : m.executed = false) (approved : m.approved = false)
      (cancelled : m.cancelled = false) : Standing m window now .submitted
  /-- Approved, and still in the window. -/
  | approved (unsettled : m.Unsettled)
      (early : ReviewWindow.isOpen m.approvedAt window now = true) :
      Standing m window now .approved
  /-- Approved, with the window over. -/
  | executable (unsettled : m.Unsettled)
      (late : ReviewWindow.isOpen m.approvedAt window now = false) :
      Standing m window now .executable
  | cancelled (executed : m.executed = false) (approved : m.approved = true)
      (cancelled : m.cancelled = true) : Standing m window now .cancelled
  | executed (executed : m.executed = true) : Standing m window now .executed

/-- Ordered marks stand as their own status says: the status is read in the
order executed, unapproved, cancelled, window. -/
theorem Marks.Ordered.standing {m : Marks} (hm : m.Ordered)
    (window now : UInt64) :
    m.Standing window now (m.status window now) := by
  cases hexecuted : m.executed with
  | true =>
      rw [status_of_executed hexecuted]
      exact .executed hexecuted
  | false =>
      cases happroved : m.approved with
      | false =>
          rw [hm.status_of_unapproved happroved]
          exact .submitted hexecuted happroved (hm.not_cancelled happroved)
      | true =>
          cases hcancelled : m.cancelled with
          | true =>
              rw [status_of_cancelled hexecuted hcancelled]
              exact .cancelled hexecuted happroved hcancelled
          | false =>
              have hlive := live_iff.mpr ⟨happroved, hcancelled⟩
              have unsettled : m.Unsettled :=
                ⟨hexecuted, happroved, hcancelled⟩
              cases hopen : ReviewWindow.isOpen m.approvedAt window now with
              | true =>
                  rw [status_of_open hexecuted hlive hopen]
                  exact .approved unsettled hopen
              | false =>
                  rw [status_of_closed hexecuted hlive hopen]
                  exact .executable unsettled hopen

namespace Marks.Standing

variable {m : Marks} {window now : UInt64} {status : Status}

/-- What a veto asks for. -/
theorem approved_iff (h : m.Standing window now status) :
    m.Unsettled ∧ ReviewWindow.isOpen m.approvedAt window now = true ↔
      status = .approved := by
  constructor
  · rintro ⟨unsettled, hopen⟩
    cases h with
    | approved => rfl
    | submitted _ approved => cases unsettled.approved.symm.trans approved
    | executable _ late => cases hopen.symm.trans late
    | cancelled _ _ cancelled => cases unsettled.cancelled.symm.trans cancelled
    | executed executed => cases unsettled.executed.symm.trans executed
  · rintro rfl
    cases h with
    | approved unsettled early => exact ⟨unsettled, early⟩

/-- What a reversal asks for, but for the window and the claim. -/
theorem cancelled_iff (h : m.Standing window now status) :
    m.executed = false ∧ m.cancelled = true ↔ status = .cancelled := by
  constructor
  · rintro ⟨hexecuted, hcancelled⟩
    cases h with
    | cancelled => rfl
    | submitted _ _ cancelled => cases hcancelled.symm.trans cancelled
    | approved unsettled => cases hcancelled.symm.trans unsettled.cancelled
    | executable unsettled => cases hcancelled.symm.trans unsettled.cancelled
    | executed executed => cases hexecuted.symm.trans executed
  · rintro rfl
    cases h with
    | cancelled executed _ cancelled => exact ⟨executed, cancelled⟩

/-- What an approval asks for, but for the claim and the fee. -/
theorem submitted_iff (h : m.Standing window now status) :
    m.executed = false ∧ m.approved = false ↔ status = .submitted := by
  constructor
  · rintro ⟨hexecuted, happroved⟩
    cases h with
    | submitted => rfl
    | approved unsettled => cases happroved.symm.trans unsettled.approved
    | executable unsettled => cases happroved.symm.trans unsettled.approved
    | cancelled _ approved => cases happroved.symm.trans approved
    | executed executed => cases hexecuted.symm.trans executed
  · rintro rfl
    cases h with
    | submitted executed approved => exact ⟨executed, approved⟩

end Marks.Standing

-- ==================================================================== the rules

/-- What is told of a withdrawal on record. -/
def Withdrawal.reportAt (w : Withdrawal) (window : UInt64) (hash : Word)
    (now : UInt64) : WithdrawalReport where
  hash := hash
  withdrawal := w
  status := w.marks.status window now
  closesAt :=
    if w.marks.approved then ReviewWindow.closesAt w.marks.approvedAt window
    else 0

/-- What a status says about the payout of a withdrawal. -/
def WithdrawalReport.payable (report : WithdrawalReport) : Outcome Withdrawal :=
  match report.status with
  | .submitted => .error (.withdrawNotApproved report.hash)
  | .approved => .error (.cancelWindowActive report.closesAt)
  | .executable => .ok report.withdrawal
  | .cancelled => .error (.withdrawCancelled report.hash)
  | .executed => .error (.withdrawAlreadyExecuted report.hash)

/-- A report of an executable withdrawal hands its record to the payout. -/
theorem WithdrawalReport.payable_of_executable {report : WithdrawalReport}
    (h : report.status = .executable) :
    report.payable = .ok report.withdrawal := by
  unfold payable
  rw [h]

/-- A fee that an approval may put on a withdrawal: the token can be used and
bears fees in this way, somebody gets the fee, and the payout covers a fee
that comes out of it. -/
structure Bridge.AdmitsFee (b : Bridge) (w : Withdrawal) (fee : ApprovalFee) :
    Prop where
  /-- The fee is inside the payout for coins, and beside it for a contract's
  token. -/
  token : ∃ token, b.tokens.get? w.token = some token
    ∧ token.enabled = true ∧ fee.deduct = token.isNative
  recipient : ∃ recipient, checkAddress fee.recipient = .ok recipient
  /-- Inside the payout it can be no more than that. -/
  payout : fee.deduct = true → ∃ payout,
    rescale w.amount w.srcDecimals w.destDecimals = .ok payout
      ∧ fee.amount.toNat ≤ payout.toNat

section

variable {b : Bridge} {c : Context} {s : Settings} {sender : Address}
  {hash : Word} {w : Withdrawal}

/-- A fee goes through exactly when its token, recipient and payout admit
it. -/
theorem Bridge.withFee_accepted_iff {fee : ApprovalFee} :
    (∃ charged, b.withFee w fee = .ok charged) ↔ b.AdmitsFee w fee := by
  constructor
  · rintro ⟨charged, h⟩
    obtain ⟨token, recipient, htoken, hdeduct, hpayout, hrecipient, -⟩ :=
      withFee_eq_ok h
    obtain ⟨hfound, henabled⟩ := loadToken_eq_ok_iff.mp htoken
    refine ⟨⟨token, hfound, henabled, hdeduct⟩, ⟨recipient, hrecipient⟩,
      fun hd => ?_⟩
    -- the other way, each admitted part lets one check of the source pass
    obtain ⟨payout, hrescaled, hle⟩ := hpayout hd
    exact ⟨payout, mapError_eq_ok_iff.mp hrescaled, hle⟩
  · rintro ⟨⟨token, hfound, henabled, hdeduct⟩, ⟨recipient, hrecipient⟩,
      hpayout⟩
    unfold withFee
    rw [loadToken_eq_ok_iff.mpr ⟨hfound, henabled⟩, hrecipient]
    cases hd : fee.deduct with
    | false =>
        rw [ok_bind, ← hdeduct, hd]
        exact ⟨_, rfl⟩
    | true =>
        obtain ⟨payout, hrescaled, hle⟩ := hpayout hd
        have hload : w.payout = .ok payout := mapError_eq_ok_iff.mpr hrescaled
        have hcovered : decide (fee.amount ≤ payout) = true :=
          decide_eq_true hle
        rw [ok_bind, ← hdeduct, hd, hload]
        simp only [ok_bind, hcovered]
        exact ⟨_, rfl⟩

variable (found : b.withdrawals.get? hash = some w)
  (hs : b.settings = some s)

include found hs

/-- A veto goes through exactly on an unsettled record in its window. -/
theorem Bridge.cancel_accepted_iff
    (canceler : b.cancelers.contains sender = true) :
    (∃ result, b.cancel c sender hash.toList = .ok result) ↔
      w.marks.Unsettled
        ∧ ReviewWindow.isOpen w.marks.approvedAt s.reviewWindow c.now
          = true := by
  simp only [cancel, requireCanceler, canceler, hashOf_eq_ok_iff.mpr rfl,
    loadWithdrawal_eq_ok_iff.mpr found, ok_bind, bind_eq_ok_iff,
    require_eq_ok_iff, pure_eq_ok_iff, requireOpenWindow_eq_ok_iff,
    exists_const, Bool.not_eq_true', true_and]
  constructor
  · rintro ⟨_, hexecuted, happroved, hcancelled, ⟨s', hs', hopen⟩, -⟩
    cases hs.symm.trans hs'
    exact ⟨⟨hexecuted, happroved, hcancelled⟩, hopen⟩
  · rintro ⟨⟨hexecuted, happroved, hcancelled⟩, hopen⟩
    exact ⟨_, hexecuted, happroved, hcancelled, ⟨s, hs, hopen⟩, rfl⟩

/-- A veto is lifted exactly on a cancelled record in its window, and only
while no other record holds its claim. -/
theorem Bridge.uncancel_accepted_iff
    (operator : b.operators.contains sender = true) :
    (∃ result, b.uncancel c sender hash.toList = .ok result) ↔
      (w.marks.executed = false ∧ w.marks.cancelled = true)
        ∧ ReviewWindow.isOpen w.marks.approvedAt s.reviewWindow c.now = true
        ∧ b.claims.contains w.claim = false := by
  simp only [uncancel, requireOperator, operator, hashOf_eq_ok_iff.mpr rfl,
    loadWithdrawal_eq_ok_iff.mpr found, ok_bind, bind_eq_ok_iff,
    require_eq_ok_iff, pure_eq_ok_iff, requireOpenWindow_eq_ok_iff,
    requireUnclaimed_eq_ok_iff, exists_const, Bool.not_eq_true', true_and]
  constructor
  · rintro ⟨_, hexecuted, hcancelled, ⟨s', hs', hopen⟩, hfree, -⟩
    cases hs.symm.trans hs'
    exact ⟨⟨hexecuted, hcancelled⟩, hopen, hfree⟩
  · rintro ⟨⟨hexecuted, hcancelled⟩, hopen, hfree⟩
    exact ⟨_, hexecuted, hcancelled, ⟨s, hs, hopen⟩, hfree, rfl⟩

/-- An approval goes through exactly on a record that waits for one, with its
claim free and its fee admitted. -/
theorem Bridge.approve_accepted_iff {fee : Option ApprovalFee}
    (operator : b.operators.contains sender = true) :
    (∃ result, b.approve c sender hash.toList fee = .ok result) ↔
      (w.marks.executed = false ∧ w.marks.approved = false)
        ∧ b.claims.contains w.claim = false
        ∧ ∀ asked, fee = some asked → b.AdmitsFee w asked := by
  simp only [approve, requireOperator, operator, hashOf_eq_ok_iff.mpr rfl,
    loadWithdrawal_eq_ok_iff.mpr found, loadSettings_eq_ok_iff.mpr hs,
    ok_bind, bind_eq_ok_iff, require_eq_ok_iff, requireUnclaimed_eq_ok_iff,
    exists_const, Bool.not_eq_true', true_and]
  -- without a fee the record is approved as it stands; with one, as charged
  cases fee with
  | none =>
      simp only [bind_eq_ok_iff, pure_eq_ok_iff]
      constructor
      · rintro ⟨_, hexecuted, happroved, hfree, -⟩
        refine ⟨⟨hexecuted, happroved⟩, hfree, fun asked hasked => ?_⟩
        cases hasked
      · rintro ⟨⟨hexecuted, happroved⟩, hfree, -⟩
        exact ⟨_, hexecuted, happroved, hfree, w, rfl, rfl⟩
  | some fee =>
      simp only [bind_eq_ok_iff, pure_eq_ok_iff]
      constructor
      · rintro ⟨_, hexecuted, happroved, hfree, charged, hcharged, -⟩
        refine ⟨⟨hexecuted, happroved⟩, hfree, fun asked hasked => ?_⟩
        cases hasked
        exact withFee_accepted_iff.mp ⟨charged, hcharged⟩
      · rintro ⟨⟨hexecuted, happroved⟩, hfree, hadmits⟩
        obtain ⟨charged, hcharged⟩ := withFee_accepted_iff.mpr (hadmits fee rfl)
        exact ⟨_, hexecuted, happroved, hfree, charged, hcharged, rfl⟩

/-- A record on file is reported with its status of this moment. -/
theorem Bridge.reportOf_of_found :
    b.reportOf c hash = .ok (some (w.reportAt s.reviewWindow hash c.now)) := by
  unfold reportOf
  rw [found, loadSettings_eq_ok_iff.mpr hs]
  rfl

/-- The check before a payout says what the reported status says. -/
theorem Bridge.payable_eq_report (ordered : w.marks.Ordered) :
    b.payable c hash = (w.reportAt s.reviewWindow hash c.now).payable := by
  have hstanding := ordered.standing s.reviewWindow c.now
  unfold payable WithdrawalReport.payable Withdrawal.reportAt
  rw [loadWithdrawal_eq_ok_iff.mpr found, loadSettings_eq_ok_iff.mpr hs]
  generalize w.marks.status s.reviewWindow c.now = status at hstanding ⊢
  cases hstanding with
  | submitted executed approved =>
      simp only [ok_bind, executed, approved]
      rfl
  | approved unsettled early =>
      simp only [ok_bind, unsettled.executed, unsettled.approved,
        unsettled.cancelled, early]
      rfl
  | executable unsettled late =>
      simp only [ok_bind, unsettled.executed, unsettled.approved,
        unsettled.cancelled, late]
      rfl
  | cancelled executed approved cancelled =>
      simp only [ok_bind, executed, approved, cancelled]
      rfl
  | executed executed =>
      simp only [ok_bind, executed]
      rfl

end

-- ================================================================== every run

/-- A request would be taken now. -/
def Session.Accepts (s : Session) (sender : Address) (funds : List Coin)
    (request : Request) : Prop :=
  ∃ receipt,
    (s.step (.take sender funds request)).2 = .ok (.receipt receipt)

/-- While nothing is in flight it depends on the rule alone. -/
theorem Session.accepts_iff {s : Session} {sender : Address}
    {funds : List Coin} {request : Request}
    (idle : s.bridge.inFlight = none) :
    s.Accepts sender funds request ↔
      ∃ result, s.bridge.handle s.context sender funds request
        = .ok result := by
  unfold Accepts
  rw [step_take_of_idle idle]
  constructor
  · rintro ⟨receipt, h⟩
    obtain ⟨result, hresult, -⟩ := map_eq_ok_iff.mp h
    exact ⟨result, hresult⟩
  · rintro ⟨result, hresult⟩
    rw [hresult]
    exact ⟨result.1, rfl⟩

/-- While nothing is in flight, the status that is told of a withdrawal
decides which of the messages about it are taken. A veto is, exactly if the
withdrawal is approved. A reversal is, exactly if it is vetoed, its window is
still open and its claim is free. An approval is, exactly if it is submitted,
its claim is free and the fee, if one is asked for, may be put on it. And the
check before a payout has one answer for each status; where that is a
refusal, it is the answer to every payout while the bridge is not paused. -/
theorem Run.acceptance {r : Run} {hash : Word} {w : Withdrawal}
    (idle : r.last.bridge.inFlight = none)
    (stored : r.last.bridge.withdrawals.get? hash = some w) :
    ∃ report s,
      r.last.ask (.withdrawal hash.toList) = .ok (.withdrawal (some report))
      ∧ report.hash = hash ∧ report.withdrawal = w
      ∧ r.last.bridge.settings = some s
      ∧ (∀ sender funds, r.last.bridge.cancelers.contains sender = true →
          (r.last.Accepts sender funds (.cancel hash.toList) ↔
            report.status = .approved))
      ∧ (∀ sender funds, r.last.bridge.operators.contains sender = true →
          (r.last.Accepts sender funds (.uncancel hash.toList) ↔
            report.status = .cancelled
              ∧ r.last.now.seconds.toNat
                < w.marks.approvedAt.toNat + s.reviewWindow.toNat
              ∧ r.last.bridge.claims.contains w.claim = false))
      ∧ (∀ sender funds fee, r.last.bridge.operators.contains sender = true →
          (r.last.Accepts sender funds (.approve hash.toList fee) ↔
            report.status = .submitted
              ∧ r.last.bridge.claims.contains w.claim = false
              ∧ ∀ asked, fee = some asked →
                  r.last.bridge.AdmitsFee w asked))
      ∧ r.last.bridge.payable r.last.context hash = report.payable
      ∧ ∀ e, report.payable = .error e →
          ∀ sender funds (request : Request),
            request.payoutOf = some hash.toList →
            (r.last.step (.take sender funds request)).2
              = .error (if s.paused then .bridgePaused else e) := by
  -- set-up stored the settings, and marks keep their order ever since
  obtain ⟨s, hs, -⟩ := r.settings_eq
  have hordered := (marksOrdered_invariant.throughout r).now _ _ stored
  have hstanding := hordered.standing s.reviewWindow r.last.now.seconds
  have hpayable := Bridge.payable_eq_report (c := r.last.context) stored hs
    hordered
  have hwindow : ReviewWindow.isOpen w.marks.approvedAt s.reviewWindow
      r.last.now.seconds = true ↔ _ :=
    ReviewWindow.isOpen_iff r.last.now.le_last
  refine ⟨w.reportAt s.reviewWindow hash r.last.now.seconds, s, ?report, rfl,
    rfl, hs, fun sender funds canceler => ?veto,
    fun sender funds operator => ?reversal,
    fun sender funds fee operator => ?approval, hpayable,
    fun e refused sender funds request asks => ?payout⟩
  case report =>
    show (fieldOf 32 "hash" hash.toList >>= _) = _
    have hread : fieldOf 32 "hash" hash.toList = .ok hash := by
      unfold fieldOf
      rw [Bytes.ofList?_toList]
    rw [hread, ok_bind, Bridge.reportOf_of_found stored hs]
    rfl
  case veto =>
    -- in idle custody nothing but the handler's own rules can refuse
    rw [Session.accepts_iff idle]
    exact (Bridge.cancel_accepted_iff stored hs canceler).trans
      hstanding.approved_iff
  case reversal =>
    rw [Session.accepts_iff idle, ← hwindow]
    refine (Bridge.uncancel_accepted_iff stored hs operator).trans ?_
    exact and_congr_left fun _ => hstanding.cancelled_iff
  case approval =>
    rw [Session.accepts_iff idle]
    refine (Bridge.approve_accepted_iff stored hs operator).trans ?_
    exact and_congr_left fun _ => hstanding.submitted_iff
  case payout =>
    exact Session.payout_of_unpayable idle hs (hpayable.trans refused) sender
      funds asks

/-- The sample withdrawal in its window: the canceler's veto is taken, and
another approval is not. -/
theorem Run.acceptance_in_window :
    Sample.approved.last.bridge.inFlight = none
      ∧ Sample.approved.last.bridge.withdrawals.get? Sample.hash
        = some Sample.approvedRecord
      ∧ Sample.approved.last.Accepts "canceler" []
        (.cancel Sample.hash.toList)
      ∧ ¬ Sample.approved.last.Accepts "operator" []
        (.approve Sample.hash.toList none) := by
  obtain ⟨hidle, -, hstored, -⟩ := Sample.approved_state
  obtain ⟨report, s, hask, -, -, -, hveto, -, happroval, -⟩ :=
    Run.acceptance hidle hstored
  have hanswer : Sample.approved.last.ask (.withdrawal Sample.hash.toList)
      = .ok (.withdrawal (some
          ⟨Sample.hash, Sample.approvedRecord, .approved, 1015⟩)) := by
    rw [Sample.last_approved]
    decide +kernel
  rw [hanswer] at hask
  cases hask
  have hroles : Sample.approved.last.bridge.cancelers.contains "canceler"
        = true
      ∧ Sample.approved.last.bridge.operators.contains "operator" = true := by
    rw [Sample.last_approved]
    decide +kernel
  refine ⟨hidle, hstored, (hveto "canceler" [] hroles.1).mpr rfl, ?_⟩
  intro haccepted
  cases ((happroval "operator" [] none hroles.2).mp haccepted).1

end TokenBridge
