/-
Custody transactions are atomic and never overlap.

A transaction begins with a request whose receipt waits for a report, and
ends with that report. `Awaiting` tells from the steps of a run alone that
one is under way, and from which state it set out; the mark that the bridge
keeps says the same. While the mark is there no request is taken, and while
it is not no report is. A report then has two outcomes: it finds no fault
with the movement and clears the mark, or it finds one and brings back the
state that the transaction set out from.
-/
import Mathlib.Data.List.Induction
import TokenBridge.Proofs.CashFlow
import TokenBridge.Proofs.ReviewPeriod

namespace TokenBridge

-- ================================================================ under way

/-- A step is a report. -/
def Session.Step.isReply : Session.Step → Bool
  | .reply _ _ => true
  | _ => false

/-- A run in which a request waits for its report: it was taken at an
origin, and nothing was taken and no report came after it. -/
inductive Awaiting (origin : Run) (t : Taken) : Run → Prop
  /-- The request is taken, and what it sends has to be reported on. -/
  | sent (x : Session.Step) (hx : ∀ setup, x ≠ .setUp setup)
      (taken : origin.last.takenBy x = some t)
      (awaits : t.receipt.awaits = true) :
      Awaiting origin t (origin.extend x hx)
  /-- Nothing is taken and no report comes. -/
  | wait {r : Run} (h : Awaiting origin t r) (x : Session.Step)
      (hx : ∀ setup, x ≠ .setUp setup)
      (untaken : r.last.takenBy x = none) (unreported : x.isReply = false) :
      Awaiting origin t (r.extend x hx)

/-- What waits after a request was taken: this one if its receipt waits,
else what waited before. -/
theorem History.pending_note_of_taken (h : History) {s : Session}
    {x : Session.Step} {t : Taken} (ht : s.takenBy x = some t) :
    (h.note s x).pending = if t.receipt.awaits then some t else h.pending := by
  cases x with
  | take sender funds request =>
      change s.taken? sender funds request = some t at ht
      show ((s.taken? sender funds request).elim h h.take).pending = _
      rw [ht]
      show (h.take t).pending = _
      unfold take
      split <;> rfl
  | _ => cases ht

/-- Nothing else but a report changes what waits. -/
theorem History.pending_note_of_not_taken (h : History) {s : Session}
    {x : Session.Step} (ht : s.takenBy x = none) (hx : x.isReply = false) :
    (h.note s x).pending = h.pending := by
  cases x with
  | take sender funds request =>
      change s.taken? sender funds request = none at ht
      show ((s.taken? sender funds request).elim h h.take).pending = _
      rw [ht]
      rfl
  | reply id failure => cases hx
  | _ => rfl

/-- What holds of a run that has just begun, and goes on holding step by
step, holds of every run. -/
theorem Run.stepwise {p : Run → Prop} (fresh : ∀ o, p (.fresh o))
    (extend : ∀ (r : Run) (x : Session.Step)
      (hx : ∀ setup, x ≠ .setUp setup), p r → p (r.extend x hx)) (r : Run) :
    p r := by
  obtain ⟨o, steps, once⟩ := r
  induction steps using List.reverseRecOn with
  | nil => exact fresh o
  | append_singleton steps x ih =>
      have hsteps : ∀ setup, .setUp setup ∉ steps :=
        fun setup hs => once setup (List.mem_append_left _ hs)
      have hx : ∀ setup, x ≠ .setUp setup := by
        intro setup he
        apply once setup
        rw [he]
        exact List.mem_append_right _ List.mem_cons_self
      exact extend ⟨o, steps, hsteps⟩ x hx (ih hsteps)

namespace Awaiting

variable {origin r : Run} {t : Taken}

/-- The request that waits was taken in the state its origin ended in. -/
theorem before_eq (h : Awaiting origin t r) : t.before = origin.last := by
  induction h with
  | sent x hx taken awaits => exact Session.before_of_takenBy taken
  | wait h x hx untaken unreported ih => exact ih

/-- The history keeps the request that waits. -/
theorem pending (h : Awaiting origin t r) : r.history.pending = some t := by
  induction h with
  | sent x hx taken awaits =>
      rw [Run.history_extend, History.pending_note_of_taken _ taken, awaits]
      rfl
  | wait h x hx untaken unreported ih =>
      rw [Run.history_extend,
        History.pending_note_of_not_taken _ untaken unreported]
      exact ih

/-- The chain keeps the state that the transaction set out from. -/
theorem checkpoint_eq (h : Awaiting origin t r) :
    r.last.checkpoint = some origin.last.bridge := by
  rw [r.coherent.pending, h.pending, ← h.before_eq]
  rfl

end Awaiting

/-- What the history keeps as waiting was taken at some origin, and waits
since. -/
theorem Run.awaiting_of_pending (r : Run) {t : Taken}
    (h : r.history.pending = some t) : ∃ origin, Awaiting origin t r := by
  induction r using Run.stepwise with
  | fresh o => cases h
  | extend r x hx ih =>
      rw [history_extend] at h
      cases hreply : x.isReply with
      | true =>
          cases x with
          | reply id failure => cases h
          | _ => cases hreply
      | false =>
          cases htaken : r.last.takenBy x with
          | none =>
              rw [History.pending_note_of_not_taken _ htaken hreply] at h
              obtain ⟨origin, hwait⟩ := ih h
              exact ⟨origin, .wait hwait x hx htaken hreply⟩
          | some t' =>
              rw [History.pending_note_of_taken _ htaken] at h
              cases hawaits : t'.receipt.awaits with
              | true =>
                  rw [hawaits] at h
                  cases h
                  exact ⟨r, .sent x hx htaken hawaits⟩
              | false =>
                  -- it was taken, so nothing waited before it
                  have hidle : r.last.bridge.inFlight = none := by
                    rw [← Session.before_of_takenBy htaken]
                    exact t'.idle
                  rw [hawaits, r.coherent.pending_eq_none hidle] at h
                  cases h

/-- The mark of the bridge is there exactly while a transaction is under
way. -/
theorem Run.inFlight_iff_awaiting (r : Run) :
    r.last.bridge.inFlight.isSome = true ↔ ∃ origin t, Awaiting origin t r := by
  have hc := r.coherent
  rw [hc.flying, hc.pending, Option.isSome_map]
  constructor
  · intro h
    obtain ⟨t, ht⟩ := Option.isSome_iff_exists.mp h
    obtain ⟨origin, hwait⟩ := r.awaiting_of_pending ht
    exact ⟨origin, t, hwait⟩
  · rintro ⟨origin, t, hwait⟩
    rw [hwait.pending]
    rfl

-- ============================================================ one at a time

/-- How many messages of a receipt ask for a report. -/
def Receipt.awaitedCount (r : Receipt) : Nat :=
  r.messages.countP Dispatch.isAwaited

/-- Where no message is awaited, none is counted. -/
theorem countP_of_not_any {ms : List Dispatch}
    (h : ms.any Dispatch.isAwaited = false) :
    ms.countP Dispatch.isAwaited = 0 := by
  rw [List.countP_eq_zero]
  intro m hm hawaited
  exact Bool.false_ne_true
    (h.symm.trans (List.any_eq_true.mpr ⟨m, hm, hawaited⟩))

/-- Custody sends one awaited message or none. -/
theorem CustodySent.countP_le_one {before after : Option Movement}
    {sent : List Dispatch} (h : CustodySent before sent after) :
    sent.countP Dispatch.isAwaited ≤ 1 := by
  cases h with
  | nothing => exact Nat.zero_le 1
  | moved custody => exact Nat.le_refl 1

/-- No rule sends more than one message that asks for a report. -/
theorem Handled.awaitedCount_le_one {b b' : Bridge} {c : Context}
    {sender : Address} {funds : List Coin} {r : Request} {receipt : Receipt}
    (h : Handled b c sender funds receipt b' r) :
    receipt.awaitedCount ≤ 1 := by
  unfold Receipt.awaitedCount
  cases h with
  | deposit brought told =>
      have hsent := told.sent.countP_le_one
      rw [told.messages, List.countP_append]
      split
      · exact hsent
      · exact hsent
  | submit told => simp [told.messages]
  | approve told =>
      rw [told.messages, countP_of_not_any (tipMessages_not_awaited _ _ _)]
      exact Nat.zero_le 1
  | cancel told => simp [told.messages]
  | uncancel told => simp [told.messages]
  | execute asks told =>
      rw [told.messages, List.countP_append,
        countP_of_not_any (feeMessages_not_awaited _ _)]
      exact told.custody.countP_le_one
  | administer only told => simp [told.messages]

/-- Nor does any step. -/
theorem Session.awaitedCount_le_one {s : Session} {x : Session.Step}
    {receipt : Receipt} (h : (s.step x).2 = .ok (.receipt receipt)) :
    receipt.awaitedCount ≤ 1 := by
  cases ht : s.takenBy x with
  | none =>
      unfold Receipt.awaitedCount
      rw [messages_of_not_taken ht h]
      exact Nat.zero_le 1
  | some t =>
      rw [step_of_takenBy ht] at h
      cases h
      exact t.handled.awaitedCount_le_one

-- ================================================================= a report

/-- What a report can find wrong with the movement in flight, and how the
bridge then refuses it. -/
inductive ReplyFault (c : Context) (m : Movement) (id : UInt64)
    (failure : Option String) : BridgeError → Prop
  /-- It is not the report that was asked for. -/
  | unexpected (other : id ≠ custodyReplyId) :
      ReplyFault c m id failure (.unexpectedReply id)
  /-- The message that moves the tokens failed. -/
  | failed {reason : String} (reported : failure = some reason) :
      ReplyFault c m id failure
        (if m.token.isNative then .nativeTransferFailed reason
          else .tokenCallFailed reason)
  /-- One of the balances cannot be had. -/
  | unanswered {account : Address} {e : BridgeError}
      (asked : account = c.self ∨ account = m.account)
      (refused : c.balance m.token account = .error e) :
      ReplyFault c m id failure e
  /-- One of the balances did not change by the amount. -/
  | wrong {thisAfter accountAfter found : Amount} {side : MovementSide}
      (this : c.balance m.token c.self = .ok thisAfter)
      (account : c.balance m.token m.account = .ok accountAfter)
      (change : (side, found) ∈ m.changes thisAfter accountAfter)
      (differs : found ≠ m.amount) :
      ReplyFault c m id failure (.wrongMovement side m.amount found)

/-- Either all changes are the amount, or one that is not refuses. -/
theorem checkChanges_cases (amount : Amount)
    (changes : List (MovementSide × Amount)) :
    (checkChanges amount changes = .ok ()
        ∧ ∀ side found, (side, found) ∈ changes → found = amount)
      ∨ ∃ side found, (side, found) ∈ changes ∧ found ≠ amount
        ∧ checkChanges amount changes
          = .error (.wrongMovement side amount found) := by
  induction changes with
  | nil => exact .inl ⟨rfl, fun _ _ h => absurd h List.not_mem_nil⟩
  | cons change rest ih =>
      obtain ⟨side, found⟩ := change
      unfold checkChanges
      by_cases hsame : found = amount
      · rw [if_pos hsame]
        rcases ih with ⟨hok, hall⟩ | ⟨side', found', hmem, hdiffers, herr⟩
        · refine .inl ⟨hok, fun side' found' hmem => ?_⟩
          rcases List.mem_cons.mp hmem with heq | hmem
          · cases heq
            exact hsame
          · exact hall side' found' hmem
        · exact .inr ⟨side', found', List.mem_cons_of_mem _ hmem, hdiffers,
            herr⟩
      · rw [if_neg hsame]
        exact .inr ⟨side, found, List.mem_cons_self, hsame, rfl⟩

namespace Bridge

variable {b : Bridge} {m : Movement}

/-- A report under another number is refused. -/
theorem reply_of_other {id : UInt64} (h : id ≠ custodyReplyId) (c : Context)
    (failure : Option String) :
    b.reply c id failure = .error (.unexpectedReply id) := by
  unfold reply require
  rw [decide_eq_false h]
  rfl

/-- While nothing is in flight every report is refused. -/
theorem reply_of_idle (h : b.inFlight = none) (c : Context) (id : UInt64)
    (failure : Option String) :
    b.reply c id failure = .error (.unexpectedReply id) := by
  by_cases hid : id = custodyReplyId
  · unfold reply require
    rw [decide_eq_true hid, h]
    rfl
  · exact reply_of_other hid c failure

/-- A report of failure undoes the movement, in words that say which kind of
token it was. -/
theorem reply_of_failure (hm : b.inFlight = some m) (c : Context)
    (reason : String) :
    b.reply c custodyReplyId (some reason)
      = .error (if m.token.isNative then .nativeTransferFailed reason
          else .tokenCallFailed reason) := by
  unfold reply require
  rw [decide_eq_true rfl, hm]
  rfl

/-- Where nothing failed, the balances decide. -/
theorem reply_of_success (hm : b.inFlight = some m) (c : Context) :
    ∃ receipt, b.reply c custodyReplyId none = (do
      let thisAfter ← c.balance m.token c.self
      let accountAfter ← c.balance m.token m.account
      m.verify thisAfter accountAfter
      return (receipt, { b with inFlight := none })) := by
  unfold reply require
  rw [decide_eq_true rfl, hm]
  exact ⟨_, rfl⟩

/-- A report on a movement in flight is accepted if there is no fault, and
refused for one that there is. -/
theorem reply_cases (hm : b.inFlight = some m) (c : Context) (id : UInt64)
    (failure : Option String) :
    ((∀ e, ¬ ReplyFault c m id failure e)
        ∧ ∃ receipt, b.reply c id failure
          = .ok (receipt, { b with inFlight := none }))
      ∨ ∃ e, ReplyFault c m id failure e
        ∧ b.reply c id failure = .error e := by
  by_cases hid : id = custodyReplyId
  case neg => exact .inr ⟨_, .unexpected hid, reply_of_other hid c failure⟩
  subst hid
  cases failure with
  | some reason => exact .inr ⟨_, .failed rfl, reply_of_failure hm c reason⟩
  | none =>
      obtain ⟨receipt, hreply⟩ := reply_of_success hm c
      rw [hreply]
      cases hthis : c.balance m.token c.self with
      | error e => exact .inr ⟨e, .unanswered (.inl rfl) hthis, rfl⟩
      | ok thisAfter =>
          cases haccount : c.balance m.token m.account with
          | error e => exact .inr ⟨e, .unanswered (.inr rfl) haccount, rfl⟩
          | ok accountAfter =>
              rcases checkChanges_cases m.amount
                (m.changes thisAfter accountAfter) with
                ⟨hok, hall⟩ | ⟨side, found, hmem, hdiffers, herr⟩
              · refine .inl ⟨fun e hfault => ?_, receipt, ?_⟩
                -- the fault would say that the report failed, and here nothing
                -- did
                · cases hfault with
                  | unexpected other => exact other rfl
                  | failed reported => cases reported
                  | unanswered asked refused =>
                      rcases asked with rfl | rfl
                      · rw [hthis] at refused
                        cases refused
                      · rw [haccount] at refused
                        cases refused
                  | wrong this account change differs =>
                      rw [hthis] at this
                      rw [haccount] at account
                      cases this
                      cases account
                      exact differs (hall _ _ change)
                · show (m.verify thisAfter accountAfter >>= _) = _
                  unfold Movement.verify
                  rw [hok]
                  rfl
              · refine .inr ⟨_, .wrong hthis haccount hmem hdiffers, ?_⟩
                show (m.verify thisAfter accountAfter >>= _) = _
                unfold Movement.verify
                rw [herr]
                rfl

end Bridge

-- =========================================================== in the session

namespace Session

variable {s : Session} {id : UInt64} {failure : Option String}

/-- While a movement waits every request is refused and nothing changes. -/
theorem step_take_of_inFlight (h : s.bridge.inFlight.isSome = true)
    (sender : Address) (funds : List Coin) (request : Request) :
    s.step (.take sender funds request) = (s, .error .custodyInProgress) := by
  obtain ⟨m, hm⟩ := Option.isSome_iff_exists.mp h
  have htake : s.bridge.take s.context sender funds request
      = .error .custodyInProgress := by
    unfold Bridge.take Bridge.requireIdle require
    rw [hm]
    rfl
  show ((s.take sender funds request).1,
    (s.take sender funds request).2.map Response.receipt) = _
  unfold take
  rw [htake]
  rfl

/-- While no movement is in flight, a request is left to its rule. -/
theorem step_take_of_idle (idle : s.bridge.inFlight = none)
    {sender : Address} {funds : List Coin} {request : Request} :
    (s.step (.take sender funds request)).2
      = (s.bridge.handle s.context sender funds request).map
          fun result => .receipt result.1 := by
  have hidle : s.bridge.requireIdle = .ok () :=
    Bridge.requireIdle_eq_ok_iff.mpr idle
  have htake : s.bridge.take s.context sender funds request
      = s.bridge.handle s.context sender funds request := by
    unfold Bridge.take
    rw [hidle]
    rfl
  show (s.take sender funds request).2.map Response.receipt = _
  unfold take
  rw [htake]
  cases s.bridge.handle s.context sender funds request with
  | ok result => rfl
  | error e => rfl

/-- An accepted report goes into the state, and its checkpoint is dropped. -/
theorem step_reply_of_ok {receipt : Receipt} {b : Bridge}
    (h : s.bridge.reply s.context id failure = .ok (receipt, b)) :
    s.step (.reply id failure)
      = ({ s with bridge := b, checkpoint := none },
          .ok (.receipt receipt)) := by
  show ((s.reply id failure).1,
    (s.reply id failure).2.map Response.receipt) = _
  unfold reply
  rw [h]
  rfl

/-- A refused report puts the checkpoint back. -/
theorem step_reply_of_error {e : BridgeError}
    (h : s.bridge.reply s.context id failure = .error e) :
    s.step (.reply id failure)
      = ({ s with bridge := s.checkpoint.getD s.bridge, checkpoint := none },
          .error e) := by
  show ((s.reply id failure).1,
    (s.reply id failure).2.map Response.receipt) = _
  unfold reply
  rw [h]
  rfl

end Session

/-- A report that nobody waits for is refused and changes nothing. -/
theorem Run.step_reply_of_idle (r : Run)
    (h : r.last.bridge.inFlight.isSome = false) (id : UInt64)
    (failure : Option String) :
    r.last.step (.reply id failure)
      = (r.last, .error (.unexpectedReply id)) := by
  have hidle := Option.not_isSome_iff_eq_none.mp (Bool.eq_false_iff.mp h)
  have hnone := r.coherent.checkpoint_eq_none hidle
  rw [Session.step_reply_of_error (Bridge.reply_of_idle hidle _ id failure),
    hnone]
  show ({ r.last with checkpoint := none }, _) = _
  rw [← hnone]

-- ============================================================= every moment

/-- At every moment of every run. The mark of the bridge is there exactly
while the last request that was taken waits for its report. No receipt asks
for more than one report. While the mark is there every request is refused,
and while it is not every report is, and nothing changes. A report that is
waited for is accepted if it finds no fault with the movement, and changes
nothing but the mark; or it is refused for a fault, and brings back the
state from just before the request. -/
theorem Run.custody_atomic (r : Run) :
    (r.last.bridge.inFlight.isSome = true ↔ ∃ origin t, Awaiting origin t r)
      ∧ (r.opening.receipt.awaitedCount ≤ 1
        ∧ ∀ x receipt, (r.last.step x).2 = .ok (.receipt receipt) →
          receipt.awaitedCount ≤ 1)
      ∧ (r.last.bridge.inFlight.isSome = true →
          ∀ sender funds request, r.last.step (.take sender funds request)
            = (r.last, .error .custodyInProgress))
      ∧ (r.last.bridge.inFlight.isSome = false →
          ∀ id failure, r.last.step (.reply id failure)
            = (r.last, .error (.unexpectedReply id)))
      ∧ ∀ origin t m, Awaiting origin t r →
          r.last.bridge.inFlight = some m → ∀ id failure,
          ((∀ e, ¬ ReplyFault r.last.context m id failure e)
            ∧ ∃ receipt, r.last.step (.reply id failure)
              = ({ r.last with
                    bridge := { r.last.bridge with inFlight := none }
                    checkpoint := none }, .ok (.receipt receipt)))
          ∨ ∃ e, ReplyFault r.last.context m id failure e
            ∧ r.last.step (.reply id failure)
              = ({ r.last with
                    bridge := origin.last.bridge
                    checkpoint := none }, .error e) := by
  refine ⟨r.inFlight_iff_awaiting,
    ⟨?opening, fun x receipt => Session.awaitedCount_le_one⟩,
    Session.step_take_of_inFlight, r.step_reply_of_idle, ?report⟩
  case opening =>
    obtain ⟨settings, -, -, hsilent⟩ := Bridge.setUp_eq_ok r.opening.success
    unfold Receipt.awaitedCount
    rw [hsilent]
    exact Nat.zero_le 1
  case report =>
    intro origin t m hwait hm id failure
    rcases Bridge.reply_cases hm r.last.context id failure with
      ⟨hnone, receipt, hok⟩ | ⟨e, hfault, herr⟩
    · exact .inl ⟨hnone, receipt, Session.step_reply_of_ok hok⟩
    · refine .inr ⟨e, hfault, ?_⟩
      rw [Session.step_reply_of_error herr, hwait.checkpoint_eq]
      rfl

/-- A payout that waits for its report, and is undone when that says that
it failed. -/
theorem Run.failed_payout_undone :
    ∃ t e, Awaiting Sample.reviewed t Sample.paid
      ∧ Sample.paid.last.step (.reply custodyReplyId (some "no funds"))
        = ({ Sample.paid.last with
              bridge := Sample.reviewed.last.bridge
              checkpoint := none }, .error e) := by
  have hsent : (Sample.reviewed.last.takenBy Sample.payout).map
      (·.receipt.awaits) = some true := by
    rw [Sample.last_reviewed]
    decide +kernel
  obtain ⟨t, ht, hawaits⟩ := Option.map_eq_some_iff.mp hsent
  have hpayout : ∀ setup, Sample.payout ≠ .setUp setup := by
    intro setup h
    cases h
  have hwait : Awaiting Sample.reviewed t Sample.paid :=
    .sent Sample.payout hpayout ht hawaits
  obtain ⟨hflying, -, -, -, hreport⟩ := Run.custody_atomic Sample.paid
  obtain ⟨m, hm⟩ := Option.isSome_iff_exists.mp (hflying.mpr ⟨_, _, hwait⟩)
  rcases hreport _ _ m hwait hm custodyReplyId (some "no funds") with
    ⟨hnone, -⟩ | ⟨e, -, hundone⟩
  · exact absurd (.failed rfl) (hnone _)
  · exact ⟨t, e, hwait, hundone⟩

end TokenBridge
