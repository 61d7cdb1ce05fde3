/-
The lifecycle of a withdrawal, and where it ends.

The status of a withdrawal is not stored: it is read from its marks, the
window in the settings and the clock. So three things can change it. A
request that is taken writes the marks, and `RecordMoved` says how. A
report that is refused brings back the marks from before a payout. And time
passes, which turns an approved withdrawal into an executable one and
changes no other status. `StatusEdge` puts them together and is all that a
step can do while nobody changes the window and the clock does not go back.

Two ends can be read off it. From executable the only way out is the payout,
and that leads back only by being undone. And a veto that is still there
when the window is over stays, as its reversal needs the window open.
-/
import TokenBridge.Proofs.Decisions
import TokenBridge.Proofs.Records
import TokenBridge.Proofs.Stretch

namespace TokenBridge

-- =============================================================== the window

namespace ReviewWindow

variable {approvedAt window now now' : UInt64}

/-- A window that is open was open before. -/
theorem isOpen_of_later (hle : now.toNat ≤ now'.toNat)
    (h : isOpen approvedAt window now' = true) :
    isOpen approvedAt window now = true := by
  unfold isOpen at h ⊢
  have hlt := UInt64.lt_iff_toNat_lt.mp (of_decide_eq_true h)
  exact decide_eq_true (UInt64.lt_iff_toNat_lt.mpr (by omega))

/-- A window that is over stays over. -/
theorem isOpen_eq_false_of_earlier (hle : now.toNat ≤ now'.toNat)
    (h : isOpen approvedAt window now = false) :
    isOpen approvedAt window now' = false := by
  rw [Bool.eq_false_iff] at h ⊢
  exact fun hopen => h (isOpen_of_later hle hopen)

/-- A window of an accepted length opens when it begins. -/
theorem isOpen_at_start (valid : isValid window = true)
    (hnow : now.toNat ≤ lastBlockTime) : isOpen now window now = true := by
  have hmin := minLength_le valid
  unfold isOpen closesAt
  refine decide_eq_true (UInt64.lt_iff_toNat_lt.mpr ?_)
  rw [toNat_saturatingAdd]
  simp only [lastBlockTime] at hnow
  simp only [word64Limit]
  omega

end ReviewWindow

namespace Marks

variable {m : Marks} {window now : UInt64}

/-- A payout decides the status before anything else. -/
theorem status_of_executed (h : m.executed = true) :
    m.status window now = .executed := by
  unfold status
  rw [if_pos h]

/-- A veto decides the status of what is not paid. -/
theorem status_of_cancelled (h : m.executed = false)
    (hcancelled : m.cancelled = true) :
    m.status window now = .cancelled := by
  unfold status
  rw [h, hcancelled]
  rfl

/-- A status of cancelled is a veto against an unpaid record. -/
theorem of_status_cancelled (h : m.status window now = .cancelled) :
    m.executed = false ∧ m.cancelled = true := by
  unfold status at h
  split at h
  · cases h
  · next hexecuted =>
    split at h
    · next hcancelled => exact ⟨Bool.eq_false_iff.mpr hexecuted, hcancelled⟩
    · split at h
      · cases h
      · split at h <;> cases h

/-- A live record in its window is approved. -/
theorem status_of_open (h : m.executed = false) (hlive : m.live = true)
    (hopen : ReviewWindow.isOpen m.approvedAt window now = true) :
    m.status window now = .approved := by
  obtain ⟨happroved, hcancelled⟩ := live_iff.mp hlive
  unfold status
  rw [h, hcancelled, happroved, hopen]
  rfl

/-- A live record out of its window is executable. -/
theorem status_of_closed (h : m.executed = false) (hlive : m.live = true)
    (hclosed : ReviewWindow.isOpen m.approvedAt window now = false) :
    m.status window now = .executable := by
  obtain ⟨happroved, hcancelled⟩ := live_iff.mp hlive
  unfold status
  rw [h, hcancelled, happroved, hclosed]
  rfl

/-- Only what is approved is vetoed. -/
theorem Ordered.not_cancelled (hm : m.Ordered) (h : m.approved = false) :
    m.cancelled = false := by
  rw [Bool.eq_false_iff]
  intro hcancelled
  rw [hm.approved_of_cancelled hcancelled] at h
  cases h

/-- What is not approved is submitted, for marks come in order. -/
theorem Ordered.status_of_unapproved (hm : m.Ordered)
    (h : m.approved = false) : m.status window now = .submitted := by
  have hexec : m.executed ≠ true := by
    intro hexec
    rw [(live_iff.mp (hm.live_of_executed hexec)).1] at h
    cases h
  unfold status
  rw [if_neg hexec, hm.not_cancelled h, h]
  rfl

/-- Time passing turns approved into executable and does nothing else. -/
theorem status_later {now' : UInt64} (hle : now.toNat ≤ now'.toNat) :
    m.status window now' = m.status window now
      ∨ m.status window now = .approved
        ∧ m.status window now' = .executable := by
  unfold status
  split
  · exact .inl rfl
  · split
    · exact .inl rfl
    · split
      · exact .inl rfl
      -- the clock matters to a live record only
      · cases hopen : ReviewWindow.isOpen m.approvedAt window now with
        | false =>
            rw [ReviewWindow.isOpen_eq_false_of_earlier hle hopen]
            exact .inl rfl
        | true =>
            cases ReviewWindow.isOpen m.approvedAt window now' with
            | true => exact .inl rfl
            | false => exact .inr ⟨rfl, rfl⟩

end Marks

-- =============================================================== the status

/-- The window in the settings. -/
def Bridge.window? (b : Bridge) : Option UInt64 :=
  b.settings.map (·.reviewWindow)

/-- How far the withdrawal under a hash is at a time, if one is on record. -/
def Bridge.statusAt? (b : Bridge) (now : UInt64) (hash : Word) :
    Option Status :=
  b.window?.bind fun window =>
    (b.withdrawals.get? hash).map fun w => w.marks.status window now

/-- How far it is now. -/
def Session.status? (s : Session) (hash : Word) : Option Status :=
  s.bridge.statusAt? s.now.seconds hash

/-- The review window of the withdrawal under a hash is open. -/
def Session.Reviewing (s : Session) (hash : Word) : Prop :=
  ∃ window w, s.bridge.window? = some window
    ∧ s.bridge.withdrawals.get? hash = some w
    ∧ ReviewWindow.isOpen w.marks.approvedAt window s.now.seconds = true

namespace Bridge

variable {b : Bridge} {now window : UInt64} {hash : Word} {w : Withdrawal}

/-- The window in force is the settings' own. -/
theorem window?_of_settings {s : Settings} (hs : b.settings = some s) :
    b.window? = some s.reviewWindow := by
  unfold window?
  rw [hs]
  rfl

theorem statusAt?_of_absent (hw : b.withdrawals.get? hash = none) :
    b.statusAt? now hash = none := by
  unfold statusAt?
  rw [hw]
  cases b.window? <;> rfl

/-- The status of a record is what its marks give in the window in force. -/
theorem statusAt?_of_found {status : Status}
    (hwindow : b.window? = some window)
    (hw : b.withdrawals.get? hash = some w)
    (hstatus : w.marks.status window now = status) :
    b.statusAt? now hash = some status := by
  unfold statusAt?
  rw [hwindow, hw, ← hstatus]
  rfl

theorem statusAt?_of_after {b' : Bridge} {status : Status} (h : b' = b)
    (hwindow : b.window? = some window)
    (hw : b.withdrawals.get? hash = some w)
    (hstatus : w.marks.status window now = status) :
    b'.statusAt? now hash = some status := by
  rw [h]
  exact statusAt?_of_found hwindow hw hstatus

/-- Only the window and the record count. -/
theorem statusAt?_congr {b' : Bridge} (hwindow : b'.window? = b.window?)
    (same : b'.withdrawals.get? hash = b.withdrawals.get? hash) :
    b'.statusAt? now hash = b.statusAt? now hash := by
  unfold statusAt?
  rw [hwindow, same]

/-- It is what the bridge tells those who ask. -/
theorem status_of_report {c : Context} {found : Option WithdrawalReport}
    (h : b.reportOf c hash = .ok found) :
    found.map (·.status) = b.statusAt? c.now hash := by
  unfold reportOf at h
  cases hw : b.withdrawals.get? hash with
  | none =>
      rw [hw] at h
      cases h
      exact (statusAt?_of_absent hw).symm
  | some w =>
      simp only [hw, Outcome.bind_eq_ok_iff, loadSettings_eq_ok_iff,
        Outcome.pure_eq_ok_iff] at h
      obtain ⟨settings, hs, rfl⟩ := h
      exact (statusAt?_of_found (window?_of_settings hs) hw rfl).symm

end Bridge

-- ================================================================ the rules

section

variable {b b' : Bridge} {c : Context} {sender : Address}
  {funds : List Coin} {bytes : List UInt8} {receipt : Receipt}

/-- A submission opens the status of its hash. -/
theorem Submitted.statuses {s : Submission}
    (told : Submitted b c funds s receipt b') :
    b.statusAt? c.now told.hash = none
      ∧ b'.statusAt? c.now told.hash = some .submitted := by
  have hwindow := Bridge.window?_of_settings told.settings_eq
  have hnew : told.record.marks.status told.settings.reviewWindow c.now
      = .submitted := by
    rw [told.record_eq]
    rfl
  exact ⟨Bridge.statusAt?_of_absent told.fresh,
    Bridge.statusAt?_of_after told.after hwindow
      (Table.get?_insert_self _ _ _) hnew⟩

/-- An approval starts the window, so the record is approved and not yet
executable. -/
theorem Approved.statuses {fee : Option ApprovalFee}
    (told : Approved b c sender bytes fee receipt b')
    (ordered : MarksOrdered b.withdrawals) (valid : WindowValid b)
    (hnow : c.now.toNat ≤ lastBlockTime) :
    b.statusAt? c.now told.hash = some .submitted
      ∧ b'.statusAt? c.now told.hash = some .approved := by
  have hwindow := Bridge.window?_of_settings told.settings_eq
  have hordered := ordered _ _ told.found_eq
  have hcancelled := hordered.not_cancelled told.not_approved
  have hopens := ReviewWindow.isOpen_at_start (valid _ told.settings_eq) hnow
  exact ⟨Bridge.statusAt?_of_found hwindow told.found_eq
      (hordered.status_of_unapproved told.not_approved),
    Bridge.statusAt?_of_after told.after hwindow
      (Table.get?_insert_self _ _ _)
      (Marks.status_of_open told.not_executed
        (Marks.live_iff.mpr ⟨rfl, hcancelled⟩) hopens)⟩

/-- A veto falls in the window and takes the record out of it. -/
theorem Vetoed.statuses (told : Vetoed b c sender bytes receipt b') :
    b.statusAt? c.now told.hash = some .approved
      ∧ b'.statusAt? c.now told.hash = some .cancelled := by
  have hwindow := Bridge.window?_of_settings told.settings_eq
  have hlive := Marks.live_iff.mpr ⟨told.approved, told.not_cancelled⟩
  exact ⟨Bridge.statusAt?_of_found hwindow told.found_eq
      (Marks.status_of_open told.not_executed hlive told.window_open),
    Bridge.statusAt?_of_after told.after hwindow
      (Table.get?_insert_self _ _ _)
      (Marks.status_of_cancelled told.not_executed rfl)⟩

/-- Lifting a veto starts the window anew. -/
theorem Restored.statuses (told : Restored b c sender bytes receipt b')
    (ordered : MarksOrdered b.withdrawals) (valid : WindowValid b)
    (hnow : c.now.toNat ≤ lastBlockTime) :
    b.statusAt? c.now told.hash = some .cancelled
      ∧ b'.statusAt? c.now told.hash = some .approved := by
  have hwindow := Bridge.window?_of_settings told.settings_eq
  have happroved :=
    (ordered _ _ told.found_eq).approved_of_cancelled told.cancelled
  have hopens := ReviewWindow.isOpen_at_start (valid _ told.settings_eq) hnow
  exact ⟨Bridge.statusAt?_of_found hwindow told.found_eq
      (Marks.status_of_cancelled told.not_executed told.cancelled),
    Bridge.statusAt?_of_after told.after hwindow
      (Table.get?_insert_self _ _ _)
      (Marks.status_of_open told.not_executed
        (Marks.live_iff.mpr ⟨happroved, rfl⟩) hopens)⟩

/-- A withdrawal that is paid was executable, and would still be later. -/
theorem Executed.statuses {kind : TokenKind}
    (told : Executed b c funds kind bytes receipt b') {now : UInt64}
    (hle : c.now.toNat ≤ now.toNat) :
    b.statusAt? now told.hash = some .executable
      ∧ b'.statusAt? now told.hash = some .executed := by
  have hwindow := Bridge.window?_of_settings told.settings_eq
  have hlive := Marks.live_iff.mpr ⟨told.approved, told.not_cancelled⟩
  have hover := ReviewWindow.isOpen_eq_false_of_earlier hle told.window_over
  exact ⟨Bridge.statusAt?_of_found hwindow told.found_eq
      (Marks.status_of_closed told.not_executed hlive hover),
    Bridge.statusAt?_of_after told.after hwindow
      (Table.get?_insert_self _ _ _) (Marks.status_of_executed rfl)⟩

end

/-- A request that was taken and is no change of the window leaves it as it
is. -/
theorem Taken.window_kept (t : Taken)
    (steady : ∀ seconds, t.request ≠ .setReviewWindow seconds) :
    t.after.window? = t.before.bridge.window? := by
  have handled := t.handled
  have hdecided := t.decided
  generalize t.request = r at handled hdecided steady
  cases handled with
  | deposit brought told => rw [told.after]; rfl
  | submit told => rw [told.after]; rfl
  | approve told => rw [told.after]; rfl
  | cancel told => rw [told.after]; rfl
  | uncancel told => rw [told.after]; rfl
  | execute asks told => rw [told.after]; rfl
  | administer only told =>
      obtain ⟨s, ⟨hs, -⟩, hd⟩ := hdecided only
      generalize t.after = b' at hd
      cases hd with
      | window valid => exact absurd rfl (steady _)
      -- the settings change, but not in their window
      | feesSet | paused | resumed =>
          rw [Bridge.window?_of_settings hs]
          rfl
      | granted | revoked =>
          rw [Bridge.setRole_frame]
          rfl
      | chainAdded | chainRemoved | tokenAdded | tokenSwitched
      | counterpartSet | rateSet | rateRemoved => rfl

-- ================================================================ the edges

/-- How a step of a run can change the status under a hash. -/
inductive StatusEdge (r : Run) (x : Session.Step) (hash : Word) :
    Option Status → Option Status → Prop
  | same {status : Option Status} : StatusEdge r x hash status status
  /-- The record is put down. -/
  | submitted {t : Taken} {s : Submission}
      (taken : r.last.takenBy x = some t) (asks : t.request = .submit s) :
      StatusEdge r x hash none (some .submitted)
  /-- Approved by an operator, which opens the window. -/
  | approved {t : Taken} {fee : Option ApprovalFee}
      (taken : r.last.takenBy x = some t)
      (asks : t.request = .approve hash.toList fee) :
      StatusEdge r x hash (some .submitted) (some .approved)
  /-- Vetoed while the window is open. -/
  | vetoed {t : Taken} (taken : r.last.takenBy x = some t)
      (asks : t.request = .cancel hash.toList) :
      StatusEdge r x hash (some .approved) (some .cancelled)
  /-- Restored, in the window as well, which begins anew. -/
  | restored {t : Taken} (taken : r.last.takenBy x = some t)
      (asks : t.request = .uncancel hash.toList)
      (reviewing : r.last.Reviewing hash) :
      StatusEdge r x hash (some .cancelled) (some .approved)
  /-- Nobody acts: the clock leaves the window. -/
  | matured (clock : x.isClock = true) :
      StatusEdge r x hash (some .approved) (some .executable)
  /-- Paid out, by anyone. -/
  | paid {t : Taken} (taken : r.last.takenBy x = some t)
      (asks : t.request.payoutOf = some hash.toList) :
      StatusEdge r x hash (some .executable) (some .executed)
  /-- The report on the payment says that it failed. -/
  | undone {origin : Run} {t : Taken} {e : BridgeError}
      (waits : Awaiting origin t r)
      (asks : t.request.payoutOf = some hash.toList)
      (reports : x.isReply = true) (refused : (r.last.step x).2 = .error e) :
      StatusEdge r x hash (some .executed) (some .executable)

/-- From executable only a payout leads on, and back. -/
theorem StatusEdge.final {r : Run} {x : Session.Step} {hash : Word}
    {before after : Option Status} (h : StatusEdge r x hash before after)
    (hbefore : before = some .executable ∨ before = some .executed) :
    after = some .executable ∨ after = some .executed := by
  cases h with
  | same => exact hbefore
  | paid => exact .inr rfl
  | undone => exact .inl rfl
  | submitted | approved | vetoed | restored | matured =>
      rcases hbefore with h | h <;> cases h

section

variable {r : Run} {x : Session.Step} {t : Taken} {hash : Word}

/-- A request that is taken. -/
theorem Taken.statusEdge (taken : r.last.takenBy x = some t)
    (steady : ∀ seconds, t.request ≠ .setReviewWindow seconds)
    (hash : Word) :
    StatusEdge r x hash (r.last.status? hash)
      (t.after.statusAt? r.last.now.seconds hash) := by
  -- the statuses before and after are told by the case of the record, in the
  -- window of the state before
  have hsame := Session.before_of_takenBy taken
  have hmarks := (marksOrdered_invariant.throughout r).now
  have hvalid := (windowValid_invariant.throughout r).now
  have hnow := t.before.now.le_last
  unfold Session.status?
  rw [← hsame] at hmarks hvalid ⊢
  show StatusEdge r x hash
    (t.before.bridge.statusAt? t.before.context.now hash)
    (t.after.statusAt? t.before.context.now hash)
  have hmoved := t.handled.record hash
  generalize hr : t.request = req at hmoved
  cases hmoved with
  | kept same =>
      -- a change of the window would move the status of a record it keeps
      rw [Bridge.statusAt?_congr (t.window_kept steady) same]
      exact .same
  | submitted told here after =>
      subst here
      obtain ⟨hbefore, hafter⟩ := told.statuses
      rw [hbefore, hafter]
      exact .submitted taken hr
  | approved told here after =>
      subst here
      obtain ⟨hbefore, hafter⟩ := told.statuses hmarks hvalid hnow
      rw [hbefore, hafter]
      exact .approved taken
        (hr.trans (congrArg (Request.approve · _) told.bytes_eq))
  | vetoed told here after =>
      subst here
      obtain ⟨hbefore, hafter⟩ := told.statuses
      rw [hbefore, hafter]
      exact .vetoed taken
        (hr.trans (congrArg Request.cancel told.bytes_eq))
  | restored told here after =>
      subst here
      obtain ⟨hbefore, hafter⟩ := told.statuses hmarks hvalid hnow
      have hreviewing : t.before.Reviewing told.hash :=
        ⟨_, _, Bridge.window?_of_settings told.settings_eq, told.found_eq,
          told.window_open⟩
      rw [hbefore, hafter]
      exact .restored taken
        (hr.trans (congrArg Request.uncancel told.bytes_eq))
        (hsame ▸ hreviewing)
  | paid asks told here after =>
      subst here
      obtain ⟨hbefore, hafter⟩ := told.statuses (Nat.le_refl _)
      rw [hbefore, hafter]
      exact .paid taken (hr ▸ asks.trans (congrArg some told.bytes_eq))

/-- What waits has left the window as it was. -/
theorem Awaiting.window_eq {origin : Run} (waits : Awaiting origin t r) :
    t.before.bridge.window? = r.last.bridge.window? := by
  rw [r.held t waits.pending]
  rcases t.handled.deposited_or_executed t.idle
      (r.held.flying r.coherent waits.pending) with
    ⟨token, amount, destChain, destAccount, -, ⟨told⟩⟩
      | ⟨kind, bytes, -, ⟨told⟩⟩
  · rw [told.after]
    rfl
  · rw [told.after]
    rfl

/-- It has paid the withdrawal under a hash, or left it as it was. -/
theorem Awaiting.record {origin : Run} (waits : Awaiting origin t r)
    (hash : Word) :
    t.before.bridge.withdrawals.get? hash
        = r.last.bridge.withdrawals.get? hash
      ∨ ∃ (kind : TokenKind) (bytes : List UInt8)
          (told : Executed t.before.bridge t.before.context t.funds kind
            bytes t.receipt t.after),
          t.request.payoutOf = some bytes ∧ told.hash = hash
            ∧ r.last.bridge.withdrawals.get? hash = some { told.found with
              marks := { told.found.marks with executed := true } } := by
  have hflying := r.held.flying r.coherent waits.pending
  rw [r.held t waits.pending]
  rcases t.record_of_flying hflying hash with same | hpaid
  · exact .inl same.symm
  · exact .inr hpaid

/-- A request that is undone. -/
theorem Awaiting.statusEdge {origin : Run} {e : BridgeError}
    (waits : Awaiting origin t r) (reports : x.isReply = true)
    (refused : (r.last.step x).2 = .error e)
    (forward : t.before.now.seconds.toNat ≤ r.last.now.seconds.toNat)
    (hash : Word) :
    StatusEdge r x hash (r.last.status? hash)
      (t.before.bridge.statusAt? r.last.now.seconds hash) := by
  unfold Session.status?
  rcases waits.record hash with
    same | ⟨kind, bytes, told, asks, here, -⟩
  · rw [Bridge.statusAt?_congr waits.window_eq same]
    exact .same
  · -- the window was over at the payout, and is over at the report
    subst here
    obtain ⟨hready, hpaid⟩ := told.statuses forward
    have hstatus : r.last.bridge.statusAt? r.last.now.seconds told.hash
        = some .executed := by
      rw [r.held t waits.pending]
      exact hpaid
    rw [hstatus, hready]
    exact .undone waits (asks.trans (congrArg some told.bytes_eq)) reports
      refused

/-- Time that passes. -/
theorem Run.statusEdge_of_time {now : UInt64}
    (clock : x.isClock = false → now = r.last.now.seconds)
    (forward : r.last.now.seconds.toNat ≤ now.toNat) (hash : Word) :
    StatusEdge r x hash (r.last.status? hash)
      (r.last.bridge.statusAt? now hash) := by
  unfold Session.status?
  cases hclock : x.isClock with
  | false =>
      rw [clock hclock]
      exact .same
  | true =>
      unfold Bridge.statusAt?
      cases r.last.bridge.window? with
      | none => exact .same
      | some window =>
          cases r.last.bridge.withdrawals.get? hash with
          -- the record and the window are the same, and only the time moves
          | none => exact .same
          | some w =>
              show StatusEdge r x hash
                (some (w.marks.status window r.last.now.seconds))
                (some (w.marks.status window now))
              rcases Marks.status_later forward with hsame | ⟨hbefore, hafter⟩
              · rw [hsame]
                exact .same
              · rw [hbefore, hafter]
                exact .matured hclock

end

-- ================================================================= the runs

/-- The clock is not put back. -/
def Run.Forward (r : Run) (x : Session.Step) : Prop :=
  r.last.now.seconds.toNat ≤ (r.last.step x).1.now.seconds.toNat

/-- No change of the window is taken. -/
def Run.Steady (r : Run) (x : Session.Step) : Prop :=
  ∀ t seconds, r.last.takenBy x = some t →
    t.request ≠ .setReviewWindow seconds

section

variable {r r' : Run} {x : Session.Step}

/-- A run whose clock is not put back ends no earlier than any run it goes
on from. -/
theorem Run.Onward.now_le (honward : r.Onward r')
    (forward : r'.EveryStep Run.Forward) :
    r.last.now.seconds.toNat ≤ r'.last.now.seconds.toNat := by
  induction honward with
  | refl => exact Nat.le_refl _
  | step h x hx ih =>
      rw [Run.last_extend]
      exact Nat.le_trans (ih forward.before) forward.last

/-- A movement that waits was sent no later than now. -/
theorem Awaiting.now_le {origin : Run} {t : Taken}
    (h : Awaiting origin t r) (forward : r.EveryStep Run.Forward) :
    t.before.now.seconds.toNat ≤ r.last.now.seconds.toNat := by
  rw [h.before_eq]
  exact h.onward.now_le forward

/-- Every step of a run changes the status under every hash along one of the
edges. -/
theorem Run.statusEdge (r : Run) (hx : ∀ setup, x ≠ .setUp setup)
    (forward : (r.extend x hx).EveryStep Run.Forward) (steady : r.Steady x)
    (hash : Word) :
    StatusEdge r x hash (r.last.status? hash)
      ((r.extend x hx).last.status? hash) := by
  have hforward := forward.last
  unfold Run.Forward at hforward
  rw [Run.last_extend]
  have hstepped := r.stepped hx
  generalize (r.last.step x).1 = s' at hstepped hforward
  cases hstepped with
  | took taken =>
      exact Taken.statusEdge taken (fun seconds => steady _ seconds taken) hash
  | undone waits reports refused =>
      exact waits.statusEdge reports refused (waits.now_le forward.before) hash
  | quiet bridge now =>
      have hedge := statusEdge_of_time (r := r) (x := x)
        (fun hclock => congrArg BlockTime.seconds (now hclock)) hforward hash
      unfold Session.status? at hedge ⊢
      rw [bridge]
      exact hedge

end

/-- A step that can put the clock back, or asks for another window. -/
def Session.Step.disturbs : Session.Step → Bool
  | .setTime _ => true
  | .take _ _ (.setReviewWindow _) => true
  | _ => false

/-- The clock goes back in no other step. -/
theorem Run.forward_of_not_disturbs (r : Run) {x : Session.Step}
    (h : x.disturbs = false) : r.Forward x := by
  unfold Run.Forward
  cases hclock : x.isClock with
  | false => exact Nat.le_of_eq (by rw [Session.step_now hclock])
  | true =>
      cases x with
      | setTime seconds => cases h
      | advance seconds =>
          -- an advance adds seconds to the clock, or leaves it where it is
          show _ ≤ (r.last.setTime _).1.now.seconds.toNat
          unfold Session.setTime
          split
          next now hnow =>
            have := BlockTime.toNat_seconds_of_ofSeconds? hnow
            show _ ≤ now.seconds.toNat
            omega
          next => exact Nat.le_refl _
      | _ => cases hclock

/-- The window is asked to change in no other step. -/
theorem Run.steady_of_not_disturbs (r : Run) {x : Session.Step}
    (h : x.disturbs = false) : r.Steady x := by
  intro t seconds ht hrequest
  cases x with
  | take sender funds request =>
      rw [Session.request_of_takenBy ht] at hrequest
      subst hrequest
      cases h
  | _ => cases ht

/-- A run without such steps is as quiet as asked for. -/
theorem Run.quiet_of_not_disturbs {r : Run}
    (h : ∀ x ∈ r.steps, x.disturbs = false) :
    r.EveryStep Run.Forward ∧ r.EveryStep Run.Steady := by
  have hstep : ∀ r₀ x hx, (Run.extend r₀ x hx).Onward r →
      x.disturbs = false := by
    intro r₀ x hx honward
    refine h x (honward.mem_steps ?_)
    exact List.mem_append_right _ List.mem_cons_self
  exact ⟨fun r₀ x hx h₀ => r₀.forward_of_not_disturbs (hstep r₀ x hx h₀),
    fun r₀ x hx h₀ => r₀.steady_of_not_disturbs (hstep r₀ x hx h₀)⟩

-- ======================================================== a veto that stays

/-- A veto stands, and the time to reverse it is over. -/
def Session.Stalled (s : Session) (hash : Word) : Prop :=
  ∃ window w, s.bridge.window? = some window
    ∧ s.bridge.withdrawals.get? hash = some w
    ∧ w.marks.executed = false ∧ w.marks.cancelled = true
    ∧ ReviewWindow.isOpen w.marks.approvedAt window s.now.seconds = false

namespace Session.Stalled

variable {s s' : Session} {hash : Word}

theorem status (h : s.Stalled hash) : s.status? hash = some .cancelled := by
  obtain ⟨window, w, hwindow, hw, hexecuted, hcancelled, -⟩ := h
  exact Bridge.statusAt?_of_found hwindow hw
    (Marks.status_of_cancelled hexecuted hcancelled)

/-- What has this status, and is not under review, is so. -/
theorem of_status (h : s.status? hash = some .cancelled)
    (closed : ¬ s.Reviewing hash) : s.Stalled hash := by
  unfold Session.status? Bridge.statusAt? at h
  obtain ⟨window, hwindow, h⟩ := Option.bind_eq_some_iff.mp h
  obtain ⟨w, hw, hstatus⟩ := Option.map_eq_some_iff.mp h
  obtain ⟨hexecuted, hcancelled⟩ := Marks.of_status_cancelled hstatus
  refine ⟨window, w, hwindow, hw, hexecuted, hcancelled, ?_⟩
  rw [Bool.eq_false_iff]
  exact fun hopen => closed ⟨window, w, hwindow, hw, hopen⟩

/-- Where nothing is written, time changes nothing. -/
theorem later (h : s.Stalled hash)
    (hwindow : s'.bridge.window? = s.bridge.window?)
    (same : s'.bridge.withdrawals.get? hash = s.bridge.withdrawals.get? hash)
    (hle : s.now.seconds.toNat ≤ s'.now.seconds.toNat) : s'.Stalled hash := by
  obtain ⟨window, w, hfound, hw, hexecuted, hcancelled, hover⟩ := h
  exact ⟨window, w, hwindow.trans hfound, same.trans hw, hexecuted,
    hcancelled, ReviewWindow.isOpen_eq_false_of_earlier hle hover⟩

/-- No request that is taken writes such a record. -/
theorem kept {t : Taken} (h : t.before.Stalled hash)
    (ordered : MarksOrdered t.before.bridge.withdrawals) :
    t.after.withdrawals.get? hash
      = t.before.bridge.withdrawals.get? hash := by
  obtain ⟨window, w, hwindow, hw, -, hcancelled, hover⟩ := h
  have hmoved := t.handled.record hash
  generalize t.request = r at hmoved
  cases hmoved with
  | kept same => exact same
  -- a stalled record is approved, vetoed and out of its window, and each rule
  -- that writes requires one of these not to be so
  | submitted told here after =>
      subst here
      rw [told.fresh] at hw
      cases hw
  | approved told here after =>
      subst here
      rw [told.found_eq] at hw
      cases hw
      have hnot := told.not_approved
      rw [(ordered _ _ told.found_eq).approved_of_cancelled hcancelled] at hnot
      cases hnot
  | vetoed told here after =>
      subst here
      rw [told.found_eq] at hw
      cases hw
      exact absurd (told.not_cancelled.symm.trans hcancelled)
        Bool.false_ne_true
  | restored told here after =>
      subst here
      rw [told.found_eq] at hw
      rw [Bridge.window?_of_settings told.settings_eq] at hwindow
      cases hw
      cases hwindow
      exact absurd (hover.symm.trans told.window_open) Bool.false_ne_true
  | paid asks told here after =>
      subst here
      rw [told.found_eq] at hw
      cases hw
      exact absurd (told.not_cancelled.symm.trans hcancelled)
        Bool.false_ne_true

end Session.Stalled

/-- So it goes on standing. -/
theorem Run.stalled_step (r : Run) {x : Session.Step} {hash : Word}
    (hx : ∀ setup, x ≠ .setUp setup) (forward : r.Forward x)
    (steady : r.Steady x) (h : r.last.Stalled hash) :
    (r.extend x hx).last.Stalled hash := by
  unfold Run.Forward at forward
  rw [Run.last_extend]
  have hstepped := r.stepped hx
  generalize (r.last.step x).1 = s' at hstepped forward
  cases hstepped with
  | @took t taken =>
      have hsame := Session.before_of_takenBy taken
      have hwindow := t.window_kept fun seconds => steady t seconds taken
      have hordered := (marksOrdered_invariant.throughout r).now
      have hrecord : t.before.Stalled hash →
          MarksOrdered t.before.bridge.withdrawals →
          t.after.withdrawals.get? hash
            = t.before.bridge.withdrawals.get? hash := Session.Stalled.kept
      rw [hsame] at hwindow hrecord
      exact h.later hwindow (hrecord h hordered) forward
  | undone waits reports refused =>
      rcases waits.record hash with
        same | ⟨kind, bytes, told, -, here, paid⟩
      · exact h.later waits.window_eq same forward
      · -- what a payout in flight has written is executed, not vetoed
        obtain ⟨window, w, -, hw, hexecuted, -⟩ := h
        rw [paid] at hw
        cases hw
        cases hexecuted
  | quiet bridge now =>
      refine h.later ?_ ?_ forward
      · rw [bridge]
        rfl
      · rw [bridge]

-- ============================================================ every stretch

/-- While the clock is not put back and nobody changes the window, each step
changes a status along an edge of the lifecycle or not at all. What is
executable stays so until it is paid, and is so again if the payout is
undone. What is vetoed when its window is over stays vetoed. -/
theorem Run.lifecycle {r r' : Run} (stretch : r.Onward r')
    (forward : r'.EveryStep Run.Forward)
    (steady : r.EveryStepTo r' Run.Steady) (hash : Word) :
    (∀ r₀ x hx, r.Onward r₀ → (r₀.extend x hx).Onward r' →
        StatusEdge r₀ x hash (r₀.last.status? hash)
          ((r₀.extend x hx).last.status? hash))
      ∧ (r.last.status? hash = some .executable →
          r'.last.status? hash = some .executable
            ∨ r'.last.status? hash = some .executed)
      ∧ (r.last.status? hash = some .cancelled → ¬ r.last.Reviewing hash →
          r'.last.status? hash = some .cancelled) := by
  have hedge : ∀ r₀ x hx, r.Onward r₀ → (r₀.extend x hx).Onward r' →
      StatusEdge r₀ x hash (r₀.last.status? hash)
        ((r₀.extend x hx).last.status? hash) :=
    fun r₀ x hx h₀ h₁ =>
      r₀.statusEdge hx (forward.earlier h₁) (steady r₀ x hx h₀ h₁) hash
  refine ⟨hedge, fun hready => ?final, fun hvetoed hover => ?stalled⟩
  case final =>
    refine stretch.induction (q := fun r₀ =>
      r₀.last.status? hash = some .executable
        ∨ r₀.last.status? hash = some .executed) (.inl hready) ?_
    intro r₀ x hx h₀ h₁ h
    exact (hedge r₀ x hx h₀ h₁).final h
  case stalled =>
    -- the status alone does not carry the induction: a veto can be reversed
    -- while the window is open
    refine Session.Stalled.status (stretch.induction
      (q := fun r₀ => r₀.last.Stalled hash) (.of_status hvetoed hover) ?_)
    intro r₀ x hx h₀ h₁ h
    exact r₀.stalled_step hx (forward.earlier h₁).last (steady r₀ x hx h₀ h₁) h

/-- The sample payout: the withdrawal is executable, and after the payout
executable or executed. -/
theorem Run.lifecycle_of_payout :
    Sample.reviewed.last.status? Sample.hash = some .executable
      ∧ StatusEdge Sample.reviewed Sample.payout Sample.hash
        (some .executable) (Sample.paid.last.status? Sample.hash)
      ∧ (Sample.paid.last.status? Sample.hash = some .executable
        ∨ Sample.paid.last.status? Sample.hash = some .executed) := by
  -- the record has been approved, and its window is over
  have hready : Sample.reviewed.last.status? Sample.hash
      = some .executable := by
    rw [Sample.last_reviewed]
    decide +kernel
  have hpayout : ∀ setup, Sample.payout ≠ .setUp setup := by
    intro setup h
    cases h
  have hpaid : Sample.paid
      = Sample.reviewed.extend Sample.payout hpayout := rfl
  have hquiet : ∀ x ∈ Sample.paid.steps, x.disturbs = false := by
    decide +kernel
  obtain ⟨hforward, hsteady⟩ := Run.quiet_of_not_disturbs hquiet
  rw [hpaid] at hforward hsteady ⊢
  have hstretch : Sample.reviewed.Onward
      (Sample.reviewed.extend Sample.payout hpayout) :=
    .step (.refl _) _ _
  obtain ⟨hedges, hfinal, -⟩ := Run.lifecycle hstretch hforward
    (fun r₀ x hx _ h₁ => hsteady r₀ x hx h₁) Sample.hash
  have hedge := hedges _ _ hpayout (.refl _) (.refl _)
  rw [hready] at hedge
  exact ⟨hready, hedge, hfinal hready⟩

end TokenBridge
