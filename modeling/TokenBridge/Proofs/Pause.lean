/-
What a pause stops, and what it does not.

While the bridge is paused nothing of value moves: no deposit is logged, no
nonce is used up, no locked balance changes, no withdrawal is put on record
and none is paid. The three rules that would do so ask first whether the
bridge runs. What is left to them that review withdrawals goes on as ever,
and the only coins that leave are the tips for approvals.

That the review does not depend on the pause compares two bridges which
differ in nothing but the flag (`withPaused`). The rules of the review read
the settings, but only the window and the coin for tips in them. So setting
the flag commutes with every link of their chains.
-/
import TokenBridge.Proofs.Authority
import TokenBridge.Proofs.CashFlow
import TokenBridge.Proofs.Records

namespace TokenBridge

open Outcome

/-- Nothing is taken in and nothing is paid out. -/
def Bridge.Paused (b : Bridge) : Prop :=
  ∃ s, b.settings = some s ∧ s.paused = true

-- ============================================================ nothing in flight

/-- What needs a running bridge does not happen on a paused one. -/
theorem Bridge.Paused.absurd {b : Bridge} {s : Settings} (h : b.Paused)
    (hs : b.settings = some s) (running : s.paused = false) : False := by
  obtain ⟨s', hs', hpaused⟩ := h
  rw [hs] at hs'
  cases hs'
  rw [running] at hpaused
  cases hpaused

/-- On a paused bridge no movement is in flight: what puts one there needs a
running bridge, and until its report nothing is taken, not even a pause. -/
theorem Run.idle_of_paused (r : Run) (h : r.last.bridge.Paused) :
    r.last.bridge.inFlight = none := by
  rw [← Option.isSome_eq_false_iff.trans Option.isNone_iff_eq_none]
  by_contra hflying
  rw [Bool.not_eq_false] at hflying
  obtain ⟨origin, t, waits⟩ := r.inFlight_iff_awaiting.mp hflying
  have hheld := r.held t waits.pending
  have hafter : t.after.Paused := by
    rw [hheld] at h
    exact h
  rcases t.handled.deposited_or_executed t.idle
      (r.held.flying r.coherent waits.pending) with
    ⟨token, amount, destChain, destAccount, -, ⟨told⟩⟩
      | ⟨kind, bytes, -, ⟨told⟩⟩
  · rw [told.after] at hafter
    exact hafter.absurd told.settings_eq told.running
  · rw [told.after] at hafter
    exact hafter.absurd told.settings_eq told.running

-- ===================================================================== frozen

/-- What a pause keeps as it is. The last part says both that the same
withdrawals are on record and that the same ones are paid. -/
structure Frozen (b b' : Bridge) : Prop where
  deposits : b'.deposits = b.deposits
  depositByNonce : b'.depositByNonce = b.depositByNonce
  nextNonce : b'.nextNonce = b.nextNonce
  locked : b'.locked = b.locked
  /-- No record comes and none is paid. -/
  executed : ∀ hash,
    (b'.withdrawals.get? hash).map (·.marks.executed)
      = (b.withdrawals.get? hash).map (·.marks.executed)

namespace Frozen

theorem refl (b : Bridge) : Frozen b b :=
  ⟨rfl, rfl, rfl, rfl, fun _ => rfl⟩

/-- What two stretches keep, the whole keeps. -/
theorem trans {b₁ b₂ b₃ : Bridge} (h : Frozen b₁ b₂) (h' : Frozen b₂ b₃) :
    Frozen b₁ b₃ where
  deposits := h'.deposits.trans h.deposits
  depositByNonce := h'.depositByNonce.trans h.depositByNonce
  nextNonce := h'.nextNonce.trans h.nextNonce
  locked := h'.locked.trans h.locked
  executed := fun hash => (h'.executed hash).trans (h.executed hash)

end Frozen

section

variable {b b' : Bridge} {c : Context} {sender : Address}
  {funds : List Coin} {r : Request} {receipt : Receipt}

/-- No record comes and none is paid. -/
theorem RecordMoved.executed_of_paused {hash : Word}
    (h : RecordMoved b c sender funds receipt b' hash r) (paused : b.Paused) :
    (b'.withdrawals.get? hash).map (·.marks.executed)
      = (b.withdrawals.get? hash).map (·.marks.executed) := by
  cases h with
  | kept same => rw [same]
  | submitted told here after =>
      exact (paused.absurd told.settings_eq told.running).elim
  | approved told here after =>
      subst here
      rw [told.found_eq, after]
      rfl
  | vetoed told here after =>
      subst here
      rw [told.found_eq, after]
      rfl
  | restored told here after =>
      subst here
      rw [told.found_eq, after]
      rfl
  | paid asks told here after =>
      exact (paused.absurd told.settings_eq told.running).elim

/-- Whatever is taken on a paused bridge leaves the frozen part alone. -/
theorem Handled.frozen (h : Handled b c sender funds receipt b' r)
    (paused : b.Paused) : Frozen b b' := by
  have hrecords := fun hash => (h.record hash).executed_of_paused paused
  cases h with
  | deposit brought told =>
      exact (paused.absurd told.settings_eq told.running).elim
  | submit told =>
      exact (paused.absurd told.settings_eq told.running).elim
  | execute asks told =>
      exact (paused.absurd told.settings_eq told.running).elim
  | approve told =>
      rw [told.after] at hrecords ⊢
      exact ⟨rfl, rfl, rfl, rfl, hrecords⟩
  | cancel told =>
      rw [told.after] at hrecords ⊢
      exact ⟨rfl, rfl, rfl, rfl, hrecords⟩
  | uncancel told =>
      rw [told.after] at hrecords ⊢
      exact ⟨rfl, rfl, rfl, rfl, hrecords⟩
  | administer only told =>
      rw [told.frame] at hrecords ⊢
      exact ⟨rfl, rfl, rfl, rfl, hrecords⟩

end

/-- Every step from a paused bridge leaves the frozen part alone. -/
theorem Run.frozen_step (r : Run) {x : Session.Step}
    (hx : ∀ setup, x ≠ .setUp setup) (paused : r.last.bridge.Paused) :
    Frozen r.last.bridge (r.last.step x).1.bridge := by
  have hstepped := r.stepped hx
  generalize (r.last.step x).1 = s' at hstepped
  cases hstepped with
  | took taken =>
      rw [← Session.before_of_takenBy taken] at paused ⊢
      exact (Taken.handled _).frozen paused
  | undone waits reports refused =>
      -- nothing is in flight, so no request waits that could be undone
      have hnone := r.coherent.pending_eq_none (r.idle_of_paused paused)
      rw [waits.pending] at hnone
      cases hnone
  | quiet bridge now =>
      rw [bridge]
      exact ⟨rfl, rfl, rfl, rfl, fun _ => rfl⟩

/-- The frozen part stays as it is while the bridge stays paused. -/
theorem Run.Onward.frozen {r r' : Run} (onward : r.Onward r')
    (stays : ∀ q, r.Onward q → q.Onward r' → q.last.bridge.Paused) :
    Frozen r.last.bridge r'.last.bridge := by
  refine onward.induction (q := fun q => Frozen r.last.bridge q.last.bridge)
    (.refl _) fun q x hx hbefore hafter ih => ?_
  have hpaused := stays q hbefore (Onward.trans (.step (.refl q) x hx) hafter)
  rw [last_extend]
  exact ih.trans (q.frozen_step hx hpaused)

-- ============================================================== how it lasts

/-- A step that asks for the end of the pause. -/
def Session.Step.resumes : Session.Step → Bool
  | .take _ _ .unpause => true
  | _ => false

/-- Only the request for it ends a pause. -/
theorem Taken.paused (t : Taken) (paused : t.before.bridge.Paused)
    (hr : t.request ≠ .unpause) : t.after.Paused := by
  cases hadmin : t.request.isAdministrative with
  | false =>
      have hsame := congrArg Configuration.settings
        (t.handled.configuration_eq hadmin)
      obtain ⟨s, hs, hpaused⟩ := paused
      exact ⟨s, hsame.trans hs, hpaused⟩
  | true =>
      obtain ⟨s, ⟨hs, -⟩, hdecided⟩ := t.decided hadmin
      obtain ⟨s', hs', hpaused⟩ := paused
      cases hs.symm.trans hs'
      generalize t.request = r at hr hdecided
      generalize t.after = b' at hdecided
      cases hdecided with
      | window | feesSet => exact ⟨_, rfl, hpaused⟩
      | paused => exact ⟨_, rfl, rfl⟩
      | resumed => exact absurd rfl hr
      | @granted role | @revoked role => cases role <;> exact ⟨s, hs, hpaused⟩
      | _ => exact ⟨s, hs, hpaused⟩

/-- Only the administrator lifts a pause, so any other step leaves it. -/
theorem Run.paused_step (r : Run) {x : Session.Step}
    (hx : ∀ setup, x ≠ .setUp setup) (paused : r.last.bridge.Paused)
    (lasts : x.resumes = false) : (r.last.step x).1.bridge.Paused := by
  cases ht : r.last.takenBy x with
  | none =>
      have hsame := congrArg Configuration.settings
        (r.undecided_of_untaken hx ht).configuration
      obtain ⟨s, hs, hpaused⟩ := paused
      exact ⟨s, hsame.trans hs, hpaused⟩
  | some t =>
      rw [Session.step_of_takenBy ht]
      rw [← Session.before_of_takenBy ht] at paused
      refine t.paused paused fun hr => ?_
      rw [Session.eq_of_takenBy ht, hr] at lasts
      cases lasts

/-- A pause lasts until its end is asked for. -/
theorem Run.Onward.paused {r r' : Run} (onward : r.Onward r')
    (paused : r.last.bridge.Paused)
    (lasts : r.EveryStepTo r' fun _ x => x.resumes = false) :
    r'.last.bridge.Paused := by
  refine onward.induction (q := fun q => q.last.bridge.Paused) paused
    fun q x hx hbefore hafter ih => ?_
  rw [last_extend]
  exact q.paused_step hx ih (lasts q x hx hbefore hafter)

-- =================================================================== the tips

/-- Messages are none, or the one that brings the tip of a withdrawal to the
operator whose step approves it. -/
inductive TipOnly (b : Bridge) : Session.Step → List Dispatch → Prop
  | nothing {x : Session.Step} : TipOnly b x []
  /-- An approval passes on the tip that came with the submission. -/
  | tip {s : Settings} {sender : Address} {funds : List Coin} {hash : Word}
      {fee : Option ApprovalFee} {w : Withdrawal}
      (settings : b.settings = some s)
      (operator : b.operators.contains sender = true)
      (found : b.withdrawals.get? hash = some w) :
      TipOnly b (.take sender funds (.approve hash.toList fee))
        [.plain (.send sender (coins w.tip s.nativeDenom))]

/-- What is taken on a paused bridge sends a tip at most. -/
theorem Handled.tipOnly {b b' : Bridge} {c : Context} {sender : Address}
    {funds : List Coin} {r : Request} {receipt : Receipt}
    (h : Handled b c sender funds receipt b' r) (paused : b.Paused) :
    TipOnly b (.take sender funds r) receipt.messages := by
  cases h with
  | deposit brought told =>
      exact (paused.absurd told.settings_eq told.running).elim
  | submit told =>
      exact (paused.absurd told.settings_eq told.running).elim
  | execute asks told =>
      exact (paused.absurd told.settings_eq told.running).elim
  | approve told =>
      obtain ⟨settings, hash, found, -, operator, hs, rfl, hfound, -, -, -,
        -, hmessages, -⟩ := told
      rw [hmessages, tipMessages]
      split
      · exact .nothing
      · exact .tip hs operator hfound
  | cancel told =>
      rw [told.messages]
      exact .nothing
  | uncancel told =>
      rw [told.messages]
      exact .nothing
  | administer only told =>
      rw [told.messages]
      exact .nothing

/-- Nor does any other step send more. -/
theorem Session.tipOnly {s : Session} {x : Session.Step} {receipt : Receipt}
    (paused : s.bridge.Paused) (h : (s.step x).2 = .ok (.receipt receipt)) :
    TipOnly s.bridge x receipt.messages := by
  cases ht : s.takenBy x with
  | none =>
      rw [messages_of_not_taken ht h]
      exact .nothing
  | some t =>
      rw [step_of_takenBy ht] at h
      cases h
      rw [eq_of_takenBy ht]
      have hbefore := before_of_takenBy ht
      rw [← hbefore] at paused ⊢
      exact t.handled.tipOnly paused

-- ================================================================= the review

/-- The same bridge, with the flag set or cleared. -/
def Bridge.withPaused (b : Bridge) (paused : Bool) : Bridge :=
  { b with settings := b.settings.map fun s => { s with paused } }

/-- A request of the review: an approval, a veto, a reversal. -/
def Request.isReview : Request → Bool
  | .approve .. | .cancel .. | .uncancel .. => true
  | _ => false

section

variable {b : Bridge} {p : Bool} {c : Context} {sender : Address}
  {bytes : List UInt8}

/-- The flag is all that changes in the settings that are read. -/
theorem Bridge.loadSettings_withPaused :
    (b.withPaused p).loadSettings
      = b.loadSettings.map fun s => { s with paused := p } := by
  unfold loadSettings withPaused
  cases b.settings with
  | none => rfl
  | some s => rfl

theorem Bridge.requireOpenWindow_withPaused {w : Withdrawal} :
    (b.withPaused p).requireOpenWindow c w = b.requireOpenWindow c w := by
  unfold requireOpenWindow
  rw [loadSettings_withPaused, bind_map]

/-- The bridge after a request, with the flag set or cleared in it. -/
def flagged (p : Bool) (result : Receipt × Bridge) : Receipt × Bridge :=
  (result.1, result.2.withPaused p)

/-- A veto reads nothing of the flag and hands it on. -/
theorem Bridge.cancel_withPaused :
    (b.withPaused p).cancel c sender bytes
      = (b.cancel c sender bytes).map (flagged p) := by
  unfold cancel
  simp only [map_bind, requireOpenWindow_withPaused]
  rfl

/-- Nor does a reversal. -/
theorem Bridge.uncancel_withPaused :
    (b.withPaused p).uncancel c sender bytes
      = (b.uncancel c sender bytes).map (flagged p) := by
  unfold uncancel
  simp only [map_bind, requireOpenWindow_withPaused]
  rfl

/-- Nor does an approval, with a fee or without. -/
theorem Bridge.approve_withPaused {fee : Option ApprovalFee} :
    (b.withPaused p).approve c sender bytes fee
      = (b.approve c sender bytes fee).map (flagged p) := by
  unfold approve
  cases fee with
  | none =>
      simp only [map_bind, bind_map, loadSettings_withPaused]
      rfl
  | some fee =>
      simp only [map_bind, bind_map, loadSettings_withPaused]
      rfl

/-- What the review makes of a request does not depend on the flag. -/
theorem Bridge.take_withPaused {funds : List Coin} {r : Request}
    (hr : r.isReview = true) :
    (b.withPaused p).take c sender funds r
      = (b.take c sender funds r).map (flagged p) := by
  unfold take
  rw [map_bind]
  refine congrArg (b.requireIdle >>= ·) (funext fun _ => ?_)
  cases r with
  | approve bytes fee => exact approve_withPaused
  | cancel bytes => exact cancel_withPaused
  | uncancel bytes => exact uncancel_withPaused
  | _ => cases hr

end

/-- The same session, with the flag of its bridge set or cleared. -/
def Session.withPaused (s : Session) (paused : Bool) : Session :=
  { s with bridge := s.bridge.withPaused paused }

/-- A request of the review has the same response whether the flag is set or
not, and leaves the same bridge behind but for the flag. -/
theorem Session.step_withPaused (s : Session) (p : Bool) {sender : Address}
    {funds : List Coin} {r : Request} (hr : r.isReview = true) :
    ((s.withPaused p).step (.take sender funds r)).2
        = (s.step (.take sender funds r)).2
      ∧ ((s.withPaused p).step (.take sender funds r)).1.bridge
        = (s.step (.take sender funds r)).1.bridge.withPaused p := by
  have htake : (s.withPaused p).bridge.take (s.withPaused p).context sender
      funds r = (s.bridge.take s.context sender funds r).map (flagged p) :=
    Bridge.take_withPaused hr
  show ((s.withPaused p).take sender funds r).2.map Response.receipt
        = (s.take sender funds r).2.map Response.receipt
      ∧ ((s.withPaused p).take sender funds r).1.bridge
        = (s.take sender funds r).1.bridge.withPaused p
  unfold take
  rw [htake]
  cases s.bridge.take s.context sender funds r with
  | ok result => exact ⟨rfl, rfl⟩
  | error e => exact ⟨rfl, rfl⟩

-- ================================================================== the stretch

/-- While the bridge stays paused, nothing of value moves. From wherever a
run has paused it to wherever a run goes on with it paused, the frozen part
is the same and no movement is in flight; no response brings a message but
the tip for an approval; and to the review it makes no difference that the
bridge is paused. -/
theorem Run.pause_freezes {r r' : Run} (onward : r.Onward r')
    (stays : ∀ q, r.Onward q → q.Onward r' → q.last.bridge.Paused) :
    Frozen r.last.bridge r'.last.bridge
      ∧ r'.last.bridge.inFlight = none
      ∧ (∀ x receipt, (r'.last.step x).2 = .ok (.receipt receipt) →
          TipOnly r'.last.bridge x receipt.messages)
      ∧ ∀ sender funds (request : Request), request.isReview = true →
          ((r'.last.withPaused false).step (.take sender funds request)).2
              = (r'.last.step (.take sender funds request)).2
            ∧ ((r'.last.withPaused false).step
                (.take sender funds request)).1.bridge
              = (r'.last.step
                (.take sender funds request)).1.bridge.withPaused false := by
  have hpaused := stays r' onward (.refl r')
  exact ⟨onward.frozen stays, r'.idle_of_paused hpaused,
    fun _ _ => Session.tipOnly hpaused,
    fun _ _ _ => r'.last.step_withPaused false⟩

/-- The withdrawal is on record when the administrator pauses the bridge. -/
def Sample.halted : Run :=
  Sample.submitted.extend (.take "admin" [] .pause) nofun

/-- An approval is no set-up. -/
theorem Sample.approval_ne_setUp (setup : Setup) :
    approval ≠ .setUp setup := by
  intro h
  cases h

/-- And then an operator approves the withdrawal. -/
def Sample.haltedApproved : Run :=
  Sample.halted.extend Sample.approval Sample.approval_ne_setUp

/-- An operator approves a withdrawal on a paused bridge. -/
theorem Run.approval_while_paused :
    ∃ r : Run, Sample.halted.Onward r
      ∧ (∀ q, Sample.halted.Onward q → q.Onward r → q.last.bridge.Paused)
      ∧ (r.last.bridge.marksOf Sample.hash).approved = true
      ∧ Frozen Sample.halted.last.bridge r.last.bridge := by
  have hhalted : Sample.halted.last
      = (Sample.recorded.step (.take "admin" [] .pause)).1 := by
    unfold Sample.halted
    rw [last_extend, Sample.last_submitted]
  have hpaused : Sample.halted.last.bridge.Paused := by
    have hflag : Sample.halted.last.bridge.settings.map (·.paused)
        = some true := by
      rw [hhalted]
      decide +kernel
    exact Option.map_eq_some_iff.mp hflag
  have honward : Sample.halted.Onward Sample.haltedApproved :=
    .step (.refl _) _ _
  have hsteps : ∀ x ∈ Sample.haltedApproved.steps, x.resumes = false := by
    decide +kernel
  have hstays : ∀ q, Sample.halted.Onward q →
      q.Onward Sample.haltedApproved → q.last.bridge.Paused := by
    intro q hbefore hafter
    refine hbefore.paused hpaused fun q₀ x hx _ hq => hsteps x ?_
    exact (hq.trans hafter).mem_steps
      (List.mem_append_right _ List.mem_cons_self)
  refine ⟨_, honward, hstays, ?_, (Run.pause_freezes honward hstays).1⟩
  unfold Sample.haltedApproved
  rw [last_extend, hhalted]
  decide +kernel

end TokenBridge
