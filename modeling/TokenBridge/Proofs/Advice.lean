/-
The canceler's advice and the bridge's rules.

A reviewer and a bridge decide about the same deadline and the same hash,
and neither asks the other. The reviewer knows an approval by its time, the
bridge by its mark; the reviewer computes the hash of what it sees, the
bridge has it as the key of the record. If no block is at time zero, every
approval has a time and nothing else has one. So the two never speak of
different withdrawals: where the advice is to cancel the bridge takes the
veto and pays nothing out, and where the advice comes too late the bridge
says so, too.
-/
import TokenBridge.Proofs.Authority
import TokenBridge.Proofs.Matching

namespace TokenBridge

open Outcome

-- ================================================================= the reasons

namespace Reviewer

/-- A reason that the reviewer finds by itself, whatever the source says. -/
def Reason.isOwn : Reason → Bool
  | .otherChain .. | .hashOfOtherFields .. => true
  | _ => false

/-- A disagreeing field is found at the source, so it is not the reviewer's
own. -/
theorem Evidence.isOwn_of_mismatch {e : Evidence} {s : Sighting}
    {reason : Reason} (h : e.mismatch? s = some reason) :
    reason.isOwn = false := by
  unfold mismatch? at h
  iterate 8
    split at h
    · cases h
      rfl
  cases h

/-- What a source's answer condemns is condemned on that answer. -/
theorem Sighting.isOwn_of_judge {s : Sighting} {answer : Lookup}
    {reason : Reason} (h : s.judge answer = .invalid reason) :
    reason.isOwn = false := by
  cases answer with
  | unavailable => cases h
  | absent =>
      cases h
      rfl
  | found e =>
      simp only [judge] at h
      cases hm : e.mismatch? s with
      | none =>
          rw [hm] at h
          cases h
      | some reason' =>
          rw [hm] at h
          cases h
          exact Evidence.isOwn_of_mismatch hm

/-- What is in order by itself is condemned by its source only. -/
theorem isOwn_of_verify {v : Reviewer} {s : Sighting} {reason : Reason}
    (inOrder : s.fault? v.config.thisChain = none)
    (h : (v.verify s).1 = .invalid reason) : reason.isOwn = false := by
  unfold verify at h
  rw [inOrder] at h
  cases hsource : v.sources.get? s.transfer.srcChain with
  | none =>
      rw [hsource] at h
      cases h
  | some source =>
      rw [hsource] at h
      exact Sighting.isOwn_of_judge h

/-- Advice against an approved withdrawal that is condemned depends on the
window that the reviewer knows. -/
theorem review_of_condemned {v : Reviewer} {s : Sighting} {reason : Reason}
    (approved : s.isApproved = true)
    (condemned : (v.verify s).1 = .invalid reason) (now : UInt64) :
    (v.review s now).1
      = if ReviewWindow.isOpen s.approvedAt v.config.window now then
          .cancel reason
        else .windowClosed reason := by
  unfold review
  rw [if_pos approved, ← config_verify v s]
  show (v.verify s).2.advise s now (v.verify s).1 = _
  rw [condemned]
  rfl

/-- What a decision tells: where it is against a withdrawal, that this is
condemned, and how the window stands. -/
inductive Advised (v : Reviewer) (s : Sighting) (now : UInt64) :
    Decision → Prop
  | keep : Advised v s now .keep
  | retry : Advised v s now .retry
  /-- The verdict condemns it and the veto is still in time. -/
  | cancel {reason : Reason} (condemned : (v.verify s).1 = .invalid reason)
      (early : ReviewWindow.isOpen s.approvedAt v.config.window now = true) :
      Advised v s now (.cancel reason)
  /-- The verdict condemns it too late for a veto. -/
  | windowClosed {reason : Reason}
      (condemned : (v.verify s).1 = .invalid reason)
      (late : ReviewWindow.isOpen s.approvedAt v.config.window now = false) :
      Advised v s now (.windowClosed reason)

/-- The review's answer always has one of the advised shapes, each with the
verdict and the window that led to it. -/
theorem advised_of_review (v : Reviewer) (s : Sighting) (now : UInt64) :
    Advised v s now (v.review s now).1 := by
  by_cases approved : s.isApproved = true
  · cases hverdict : (v.verify s).1 with
    | invalid reason =>
        rw [review_of_condemned approved hverdict]
        split
        next early => exact .cancel hverdict early
        next late =>
          exact .windowClosed hverdict (Bool.not_eq_true _ ▸ late)
    | valid =>
        unfold review
        rw [if_pos approved]
        show Advised v s now ((v.verify s).2.advise s now (v.verify s).1)
        rw [hverdict]
        exact .keep
    | pending =>
        unfold review
        rw [if_pos approved]
        show Advised v s now ((v.verify s).2.advise s now (v.verify s).1)
        rw [hverdict]
        exact .retry
  · unfold review
    rw [if_neg approved]
    exact .retry

end Reviewer

-- ==================================================================== the rules

/-- The marks of a withdrawal that awaits its payout: approved, and neither
vetoed nor paid. -/
structure Marks.Unsettled (m : Marks) : Prop where
  executed : m.executed = false
  approved : m.approved = true
  cancelled : m.cancelled = false

section

variable {b : Bridge} {c : Context} {sender : Address} {hash : Word}
  {w : Withdrawal}

/-- On a withdrawal that awaits its payout, a canceler's veto depends on the
window only. -/
theorem Bridge.cancel_of_unsettled
    (canceler : b.cancelers.contains sender = true)
    (found : b.withdrawals.get? hash = some w)
    (unsettled : w.marks.Unsettled) :
    ∃ result, b.cancel c sender hash.toList
      = b.requireOpenWindow c w >>= fun _ => pure result := by
  have hread : hashOf hash.toList = .ok hash := hashOf_eq_ok_iff.mpr rfl
  have hload := loadWithdrawal_eq_ok_iff.mpr found
  unfold cancel requireCanceler
  rw [canceler, hread]
  show ∃ result, (b.loadWithdrawal hash >>= _) = _
  rw [hload]
  show ∃ result, (require (!w.marks.executed) _ >>= _) = _
  rw [unsettled.executed, unsettled.approved, unsettled.cancelled]
  exact ⟨_, rfl⟩

/-- Out of the window, its check refuses with its own error. -/
theorem Bridge.requireOpenWindow_of_closed {s : Settings}
    (hs : b.settings = some s)
    (closed : ReviewWindow.isOpen w.marks.approvedAt s.reviewWindow c.now
      = false) :
    b.requireOpenWindow c w = .error .cancelWindowExpired := by
  unfold requireOpenWindow
  rw [loadSettings_eq_ok_iff.mpr hs]
  show require (ReviewWindow.isOpen w.marks.approvedAt s.reviewWindow c.now) _
    = _
  rw [closed]
  rfl

/-- While the window is open nothing is paid. -/
theorem Bridge.payable_of_open {s : Settings}
    (hs : b.settings = some s) (found : b.withdrawals.get? hash = some w)
    (unsettled : w.marks.Unsettled)
    (early : ReviewWindow.isOpen w.marks.approvedAt s.reviewWindow c.now
      = true) :
    b.payable c hash = .error (.cancelWindowActive
      (ReviewWindow.closesAt w.marks.approvedAt s.reviewWindow)) := by
  unfold payable
  rw [loadWithdrawal_eq_ok_iff.mpr found]
  show require (!w.marks.executed) _ >>= _ = _
  rw [unsettled.executed, unsettled.approved, unsettled.cancelled,
    loadSettings_eq_ok_iff.mpr hs]
  show require (!ReviewWindow.isOpen w.marks.approvedAt s.reviewWindow c.now) _
    >>= _ = _
  rw [early]
  rfl

/-- What may not be paid out is refused for the same reason, unless the pause
refuses it before. -/
theorem Bridge.execute_of_unpayable {s : Settings} {funds : List Coin}
    {kind : TokenKind} {e : BridgeError} (hs : b.settings = some s)
    (refused : b.payable c hash = .error e) :
    b.execute c funds kind hash.toList
      = .error (if s.paused then .bridgePaused else e) := by
  unfold execute
  rw [loadSettings_eq_ok_iff.mpr hs]
  show require (!s.paused) _ >>= _ = _
  cases s.paused with
  | true => rfl
  | false =>
      show hashOf hash.toList >>= _ = _
      rw [hashOf_eq_ok_iff.mpr rfl]
      show b.payable c hash >>= _ = _
      rw [refused]
      rfl

end

-- ================================================================ the approvals

/-- Every approval has a time other than zero. -/
def ApprovalsTimed (b : Bridge) : Prop :=
  ∀ hash w, b.withdrawals.get? hash = some w → w.marks.approved = true →
    w.marks.approvedAt ≠ 0

/-- A request that is taken at a time other than zero keeps that up. -/
theorem Handled.approvalsTimed {b b' : Bridge} {c : Context}
    {sender : Address} {funds : List Coin} {r : Request} {receipt : Receipt}
    (h : Handled b c sender funds receipt b' r) (clock : c.now ≠ 0)
    (before : ApprovalsTimed b) : ApprovalsTimed b' := by
  intro hash w hw approved
  cases h.record hash with
  | kept same => exact before hash w (same ▸ hw) approved
  | submitted told here after =>
      cases after.symm.trans hw
      rw [told.record_eq] at approved
      cases approved
  | approved told here after =>
      cases after.symm.trans hw
      exact clock
  | vetoed told here after =>
      cases after.symm.trans hw
      exact before told.hash told.found told.found_eq told.approved
  | restored told here after =>
      cases after.symm.trans hw
      exact clock
  | paid asks told here after =>
      cases after.symm.trans hw
      exact before told.hash told.found told.found_eq told.approved

/-- If no block is at time zero, an approval always has a time. -/
theorem Run.approvalsTimed {r : Run}
    (clock : r.EveryStep fun r₀ _ => 1 ≤ r₀.last.now.seconds.toNat) :
    ApprovalsTimed r.last.bridge := by
  refine clock.induction (q := fun r => ApprovalsTimed r.last.bridge) ?fresh
    ?extend
  case fresh =>
    intro o hash w hw
    obtain ⟨settings, -, hb, -⟩ := Bridge.setUp_eq_ok o.success
    change o.bridge.withdrawals.get? hash = some w at hw
    rw [hb] at hw
    cases hw
  case extend =>
    intro r x hx hclock ih
    -- the clock has left zero, so a fresh approval carries a time
    have hnow : r.last.now.seconds ≠ 0 := by
      intro hzero
      have := hclock.last
      rw [hzero] at this
      exact absurd this (by decide)
    rw [last_extend]
    have hstepped := r.stepped hx
    generalize (r.last.step x).1 = s' at hstepped
    cases hstepped with
    | took taken =>
        have hbefore := Session.before_of_takenBy taken
        rw [← hbefore] at ih hnow
        exact (Taken.handled _).approvalsTimed hnow ih
    | undone waits reports refused =>
        intro hash w hw approved
        rcases waits.record hash with
          same | ⟨kind, bytes, told, -, here, paid⟩
        · exact ih hash w (same ▸ hw) approved
        · -- what was paid in the meantime had the same approval
          subst here
          cases told.found_eq.symm.trans hw
          have htimed := ih told.hash _ paid approved
          exact htimed
    | quiet bridge now =>
        rw [bridge]
        exact ih

-- ================================================================ both together

/-- What the reviewer advises about a record of a chain at a time. -/
def Reviewer.adviceOn (v : Reviewer) (chain : ChainId) (hash : Word)
    (w : Withdrawal) (now : BlockTime) : Decision :=
  (v.review (w.sighting hash chain) now.seconds).1

/-- What the verifier condemns in time is advised to be cancelled. -/
theorem Reviewer.adviceOn_of_condemned {v : Reviewer} {chain : ChainId}
    {hash : Word} {w : Withdrawal} {now : BlockTime} {reason : Reason}
    (approved : (w.sighting hash chain).isApproved = true)
    (condemned : (v.verify (w.sighting hash chain)).1 = .invalid reason)
    (early : ReviewWindow.isOpen w.marks.approvedAt v.config.window
      now.seconds = true) :
    v.adviceOn chain hash w now = .cancel reason := by
  unfold adviceOn
  rw [review_of_condemned approved condemned]
  exact if_pos early

namespace Session

variable (s : Session) (hash : Word)

/-- Every canceler's veto would be taken. -/
def TakesVetoes : Prop :=
  ∀ sender funds, s.bridge.cancelers.contains sender = true →
    ∃ receipt, (s.step (.take sender funds (.cancel hash.toList))).2
      = .ok (.receipt receipt)

/-- Every canceler's veto would be refused as too late. -/
def VetoesTooLate : Prop :=
  ∀ sender funds, s.bridge.cancelers.contains sender = true →
    (s.step (.take sender funds (.cancel hash.toList))).2
      = .error .cancelWindowExpired

/-- Every payout would be refused, for the pause or for the window. -/
def WithholdsPayout : Prop :=
  ∀ sender funds (request : Request), request.payoutOf = some hash.toList →
    ∃ e, (s.step (.take sender funds request)).2 = .error e
      ∧ (e = .bridgePaused ∨ ∃ closesAt, e = .cancelWindowActive closesAt)

end Session

/-- A payout of an unpayable record is refused, by the pause if there is one
and by the record's own error otherwise. -/
theorem Session.payout_of_unpayable {s : Session} {settings : Settings}
    {hash : Word} {e : BridgeError} (idle : s.bridge.inFlight = none)
    (hs : s.bridge.settings = some settings)
    (refused : s.bridge.payable s.context hash = .error e) (sender : Address)
    (funds : List Coin) {request : Request}
    (asks : request.payoutOf = some hash.toList) :
    (s.step (.take sender funds request)).2
      = .error (if settings.paused then .bridgePaused else e) := by
  have hexecute : ∀ kind,
      s.bridge.execute s.context funds kind hash.toList = .error _ :=
    fun kind => Bridge.execute_of_unpayable hs refused
  rw [step_take_of_idle idle]
  cases request with
  | executeUnlock bytes | executeMint bytes =>
      cases Option.some.inj asks
      show (s.bridge.execute s.context funds _ hash.toList).map _ = _
      rw [hexecute]
      rfl
  | _ => cases asks

section

variable {s : Session} {settings : Settings} {hash : Word} {w : Withdrawal}
  (idle : s.bridge.inFlight = none) (hs : s.bridge.settings = some settings)
  (stored : s.bridge.withdrawals.get? hash = some w)
  (unsettled : w.marks.Unsettled)

include idle hs stored unsettled

/-- In the window a veto on an unsettled record is taken. -/
theorem Session.takesVetoes_of_open
    (early : ReviewWindow.isOpen w.marks.approvedAt settings.reviewWindow
      s.now.seconds = true) : s.TakesVetoes hash := by
  intro sender funds canceler
  obtain ⟨result, hcancel⟩ := Bridge.cancel_of_unsettled (c := s.context)
    canceler stored unsettled
  have hwindow : s.bridge.requireOpenWindow s.context w = .ok () :=
    Bridge.requireOpenWindow_eq_ok_iff.mpr ⟨settings, hs, early⟩
  refine ⟨result.1, ?_⟩
  rw [step_take_of_idle idle]
  show (s.bridge.cancel s.context sender hash.toList).map _ = _
  rw [hcancel, hwindow]
  rfl

/-- Out of the window the same veto comes too late. -/
theorem Session.vetoesTooLate_of_closed
    (late : ReviewWindow.isOpen w.marks.approvedAt settings.reviewWindow
      s.now.seconds = false) : s.VetoesTooLate hash := by
  intro sender funds canceler
  obtain ⟨result, hcancel⟩ := Bridge.cancel_of_unsettled (c := s.context)
    canceler stored unsettled
  rw [step_take_of_idle idle]
  show (s.bridge.cancel s.context sender hash.toList).map _ = _
  rw [hcancel, Bridge.requireOpenWindow_of_closed hs late]
  rfl

/-- While the window is open, neither payout of the record goes through. -/
theorem Session.withholdsPayout_of_open
    (early : ReviewWindow.isOpen w.marks.approvedAt settings.reviewWindow
      s.now.seconds = true) : s.WithholdsPayout hash := by
  intro sender funds request asks
  refine ⟨_, payout_of_unpayable idle hs
    (Bridge.payable_of_open hs stored unsettled early) sender funds asks, ?_⟩
  cases settings.paused with
  | true => exact .inl rfl
  | false => exact .inr ⟨_, rfl⟩

end

/-- A reviewer with the chain and the window of a bridge agrees with it
about every record, whatever its sources say. It takes for approved what is
approved, and never faults a record by itself. Where it says to cancel, the
bridge takes the veto and makes no payout; where it says that the window is
over, the bridge says the same. -/
theorem Run.review_agrees {r : Run} {v : Reviewer} {s : Settings}
    {hash : Word} {w : Withdrawal}
    (clock : r.EveryStep fun r₀ _ => 1 ≤ r₀.last.now.seconds.toNat)
    (idle : r.last.bridge.inFlight = none)
    (hs : r.last.bridge.settings = some s)
    (chain : v.config.thisChain = s.thisChain)
    (window : v.config.window = s.reviewWindow)
    (stored : r.last.bridge.withdrawals.get? hash = some w) :
    (w.sighting hash s.thisChain).isApproved = w.marks.approved
      ∧ (∀ reason,
          v.adviceOn s.thisChain hash w r.last.now = .cancel reason
            ∨ v.adviceOn s.thisChain hash w r.last.now
              = .windowClosed reason →
          reason.isOwn = false)
      ∧ (w.marks.approved = true → w.marks.cancelled = false →
          w.marks.executed = false →
          (∀ reason,
            v.adviceOn s.thisChain hash w r.last.now = .cancel reason →
            r.last.TakesVetoes hash ∧ r.last.WithholdsPayout hash)
          ∧ ∀ reason,
            v.adviceOn s.thisChain hash w r.last.now = .windowClosed reason →
            r.last.VetoesTooLate hash) := by
  have hadvised : Reviewer.Advised v (w.sighting hash s.thisChain)
      r.last.now.seconds (v.adviceOn s.thisChain hash w r.last.now) :=
    v.advised_of_review _ _
  -- chain and hash agree, so no check of the reviewer's own can fail
  have hown : ∀ reason,
      (v.verify (w.sighting hash s.thisChain)).1 = .invalid reason →
      reason.isOwn = false := by
    refine fun reason => Reviewer.isOwn_of_verify ?_
    exact Withdrawal.fault_eq_none_iff.mpr
      ⟨chain.symm, r.hash_eq_of_runsOn stored ⟨s, hs, rfl⟩⟩
  generalize v.adviceOn s.thisChain hash w r.last.now = advice
    at hadvised ⊢
  refine ⟨?approval, ?reasons, fun happroved hcancelled hexecuted => ?advice⟩
  case approval =>
    unfold Reviewer.Sighting.isApproved
    -- an approval on record carries its time, and nothing else does
    cases happroved : w.marks.approved with
    | true => exact decide_eq_true (Run.approvalsTimed clock _ _ stored happroved)
    | false =>
        have hchecked := (checked_invariant.throughout r).now.2 _ _ stored
        exact decide_eq_false
          (not_not_intro (hchecked.unapproved happroved).1)
  case reasons =>
    rintro reason (rfl | rfl)
    · cases hadvised with
      | cancel condemned early => exact hown reason condemned
    · cases hadvised with
      | windowClosed condemned late => exact hown reason condemned
  case advice =>
    have unsettled : w.marks.Unsettled := ⟨hexecuted, happroved, hcancelled⟩
    refine ⟨?_, ?_⟩
    · rintro reason rfl
      cases hadvised with
      | cancel condemned early =>
          -- the window advised on is the bridge's own, by the shared
          -- configuration
          rw [window] at early
          exact ⟨Session.takesVetoes_of_open idle hs stored unsettled early,
            Session.withholdsPayout_of_open idle hs stored unsettled early⟩
    · rintro reason rfl
      cases hadvised with
      | windowClosed condemned late =>
          rw [window] at late
          exact Session.vetoesTooLate_of_closed idle hs stored unsettled late

/-- A clock that is never put back does not fall behind the set-up. -/
theorem Run.EveryStep.opening_le {r : Run} (forward : r.EveryStep Run.Forward) :
    r.EveryStep fun r₀ _ =>
      r.opening.now.seconds.toNat ≤ r₀.last.now.seconds.toNat := by
  intro r₀ x hx honward
  have hopening : r.opening = r₀.opening := honward.opening_eq
  have hbefore := forward.earlier (.trans (.step (.refl r₀) x hx) honward)
  rw [hopening]
  exact r₀.onward_fresh.now_le hbefore

namespace Sample

/-- The withdrawal on record, approved in the block it was submitted in. -/
def approvedRecord : Withdrawal :=
  { record with marks := ⟨true, false, false, 1000⟩ }

/-- The sample's approval is the last step of its run. -/
theorem last_approved : approved.last = (recorded.step approval).1 := by
  unfold approved
  rw [Run.last_extend, last_submitted]

/-- What the bridge holds after the approval. -/
theorem approved_state :
    approved.last.bridge.inFlight = none
      ∧ approved.last.bridge.settings.map
          (fun s => (s.thisChain, s.reviewWindow)) = some (hereChain, 15)
      ∧ approved.last.bridge.withdrawals.get? hash = some approvedRecord
      ∧ approved.last.now.seconds = 1000 := by
  rw [last_approved]
  decide +kernel

/-- Before there is a deposit the reviewer condemns it. -/
theorem advice_approved {now : BlockTime} (hnow : now.seconds = 1000) :
    (reviewer readyThere).adviceOn hereChain hash approvedRecord now
      = .cancel .noDeposit := by
  have hfault : (approvedRecord.sighting hash hereChain).fault?
      (reviewer readyThere).config.thisChain = none :=
    Withdrawal.fault_eq_none_iff.mpr ⟨rfl, hash_record⟩
  have hsource : (reviewer readyThere).sources.get? approvedRecord.srcChain
      = some (Reviewer.sourceOf readyThere.last.bridge.deposits) :=
    Table.get?_insert_self _ _ _
  have habsent : readyThere.last.bridge.deposits.get? hash = none := by
    rw [readyThere_state.1]
    exact Table.get?_empty hash
  have hcondemned : ((reviewer readyThere).verify
      (approvedRecord.sighting hash hereChain)).1 = .invalid .noDeposit := by
    rw [Reviewer.verify_eq_judge hfault hsource]
    exact Reviewer.judge_absent (approvedRecord.sighting hash hereChain) habsent
  refine Reviewer.adviceOn_of_condemned rfl hcondemned ?_
  rw [hnow]
  rfl

end Sample

/-- While its window is open, a withdrawal without a deposit is advised
against, and a veto would be taken. -/
theorem Run.veto_advised_and_taken :
    (Sample.reviewer Sample.readyThere).adviceOn Sample.hereChain Sample.hash
        Sample.approvedRecord Sample.approved.last.now = .cancel .noDeposit
      ∧ Sample.approved.last.TakesVetoes Sample.hash
      ∧ Sample.approved.last.WithholdsPayout Sample.hash := by
  obtain ⟨hidle, hsettings, hstored, hnow⟩ := Sample.approved_state
  obtain ⟨s, hs, hconfig⟩ := Option.map_eq_some_iff.mp hsettings
  obtain ⟨hchain, hwindow⟩ := Prod.mk.inj hconfig
  have hquiet : ∀ x ∈ Sample.approved.steps, x.disturbs = false := by
    decide +kernel
  have hclock : Sample.approved.EveryStep fun r₀ _ =>
      1 ≤ r₀.last.now.seconds.toNat := fun r₀ x hx honward =>
    Nat.le_trans (by decide)
      ((Run.quiet_of_not_disturbs hquiet).1.opening_le r₀ x hx honward)
  have hadvice := Sample.advice_approved hnow
  obtain ⟨-, -, hagrees⟩ := Run.review_agrees (v := Sample.reviewer Sample.readyThere)
    hclock hidle hs hchain.symm hwindow.symm hstored
  rw [hchain] at hagrees
  exact ⟨hadvice, (hagrees rfl rfl rfl).1 _ hadvice⟩

end TokenBridge
