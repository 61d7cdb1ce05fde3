/-
Runs of a bridge on its chain, and what becomes of each request that is
taken.

A run begins with the one set-up of a bridge that has nothing stored, and
goes on with any steps but another set-up. Beside the session we keep its
history: every request that was taken, those of them that stand for good,
and the one that waits for a report. A report that is accepted makes that
one stand; a report that is refused undoes it.

What a step can do to the session and its history is said once, in `Moved`.
Two inductions over runs stand on it, and the rest of the theory uses
nothing else: an invariant of the bridge holds of every state of a run,
also of the state that a refused report would bring back (`Invariant`), and
a quantity of the bridge is accounted for by the requests that stand,
because a roll-back takes the quantity and the request away together
(`Balanced`).
-/
import TokenBridge.Session
import TokenBridge.Proofs.Handling

namespace TokenBridge

-- ============================================================== the history

/-- A request that was taken: who asked for what, in which state of the
chain, and what the bridge made of it. -/
structure Taken where
  before : Session
  sender : Address
  funds : List Coin
  request : Request
  receipt : Receipt
  after : Bridge
  success : before.bridge.take before.context sender funds request
    = .ok (receipt, after)

/-- Nothing is taken while a movement waits for its answer. -/
theorem Taken.idle (t : Taken) : t.before.bridge.inFlight = none :=
  (Bridge.handled_of_take t.success).1

/-- What was taken was handled: every effect of a request is one of the cases
of `Handled`, and nothing else ever has to be looked at. -/
theorem Taken.handled (t : Taken) :
    Handled t.before.bridge t.before.context t.sender t.funds t.receipt
      t.after t.request :=
  (Bridge.handled_of_take t.success).2

/-- The seconds of the block in which a request was taken. -/
def Taken.time (t : Taken) : Nat := t.before.now.seconds.toNat

/-- A request as it would be taken now, if it would. -/
def Session.taken? (s : Session) (sender : Address) (funds : List Coin)
    (request : Request) : Option Taken :=
  match h : s.bridge.take s.context sender funds request with
  | .ok (receipt, after) =>
    some ⟨s, sender, funds, request, receipt, after, h⟩
  | .error _ => none

/-- What became of the requests of a run so far. -/
structure History where
  /-- Every request that was taken, in order. -/
  taken : List Taken
  /-- Those that are over and stand, in order. -/
  settled : List Taken
  /-- The one that waits for a report. -/
  pending : Option Taken

namespace History

/-- Nothing has been asked of a bridge that was just set up. -/
def empty : History := ⟨[], [], none⟩

/-- The requests that succeeded and are not undone. -/
def committed (h : History) : List Taken := h.settled ++ h.pending.toList

/-- A request was taken. -/
def take (h : History) (t : Taken) : History :=
  if t.receipt.awaits then
    { h with taken := h.taken ++ [t], pending := some t }
  else { h with taken := h.taken ++ [t], settled := h.settled ++ [t] }

/-- A report came: what waited for it stands, or is undone. -/
def report (h : History) (accepted : Bool) : History :=
  { h with
    settled := if accepted then h.settled ++ h.pending.toList else h.settled
    pending := none }

/-- What a step adds to the history. -/
def note (h : History) (s : Session) : Session.Step → History
  | .take sender funds request =>
    (s.taken? sender funds request).elim h h.take
  | .reply id failure =>
    h.report (s.bridge.reply s.context id failure).isOk
  | _ => h

/-- A request that is taken comes last, whether it waits or stands at once. -/
theorem taken_take (h : History) (t : Taken) :
    (h.take t).taken = h.taken ++ [t] := by
  unfold take
  split <;> rfl

end History

/-- The request that a step takes, if it takes one. -/
def Session.takenBy (s : Session) : Session.Step → Option Taken
  | .take sender funds request => s.taken? sender funds request
  | _ => none

/-- A request is taken as it is asked, in the state in which it is asked. -/
theorem Session.taken?_eq_some {s : Session} {sender : Address}
    {funds : List Coin} {request : Request} {t : Taken}
    (h : s.taken? sender funds request = some t) :
    t.before = s ∧ t.sender = sender ∧ t.funds = funds
      ∧ t.request = request := by
  unfold taken? at h
  split at h
  · cases h
    exact ⟨rfl, rfl, rfl, rfl⟩
  · cases h

/-- A step takes the request that it brings. -/
theorem Session.request_of_takenBy {s : Session} {sender : Address}
    {funds : List Coin} {request : Request} {t : Taken}
    (h : s.takenBy (.take sender funds request) = some t) :
    t.request = request := by
  obtain ⟨-, -, -, hrequest⟩ := taken?_eq_some h
  exact hrequest

/-- Only a request is taken, the one of the step. -/
theorem Session.eq_of_takenBy {s : Session} {x : Session.Step} {t : Taken}
    (h : s.takenBy x = some t) : x = .take t.sender t.funds t.request := by
  cases x with
  | take sender funds request =>
      obtain ⟨-, rfl, rfl, rfl⟩ := taken?_eq_some h
      rfl
  | _ => cases h

/-- It is taken in the state in which the step finds the session. -/
theorem Session.before_of_takenBy {s : Session} {x : Session.Step}
    {t : Taken} (h : s.takenBy x = some t) : t.before = s := by
  cases x with
  | take sender funds request => exact (taken?_eq_some h).1
  | _ => cases h

/-- What a step does that takes a request. -/
theorem Session.step_of_takenBy {s : Session} {x : Session.Step} {t : Taken}
    (h : s.takenBy x = some t) :
    s.step x = ({ s with
        bridge := t.after
        checkpoint :=
          if t.receipt.awaits then some s.bridge else s.checkpoint },
      .ok (.receipt t.receipt)) := by
  -- only a request is taken; all the other steps are no cases
  cases x with
  | take sender funds request =>
      change s.taken? sender funds request = some t at h
      unfold taken? at h
      split at h
      next receipt after htake =>
        cases h
        show ((s.take sender funds request).1,
          (s.take sender funds request).2.map Response.receipt)
            = ({ s with
                bridge := after
                checkpoint :=
                  if receipt.awaits then some s.bridge else s.checkpoint },
              .ok (.receipt receipt))
        unfold take
        rw [htake]
        rfl
      next => cases h
  | _ => cases h

/-- The history keeps every request that is taken, and nothing else. -/
theorem History.taken_note (h : History) (s : Session) (x : Session.Step) :
    (h.note s x).taken = h.taken ++ (s.takenBy x).toList := by
  cases x with
  | take sender funds request =>
      show ((s.taken? sender funds request).elim h h.take).taken
        = h.taken ++ (s.taken? sender funds request).toList
      cases s.taken? sender funds request with
      | none => exact (List.append_nil _).symm
      | some t => exact h.taken_take t
  | _ => exact (List.append_nil _).symm

-- ===================================================================== runs

/-- A bridge that has just been set up, with nothing stored before. -/
structure Opening where
  now : BlockTime
  bank : Bank
  setup : Setup
  receipt : Receipt
  bridge : Bridge
  success : Bridge.blank.setUp setup = .ok (receipt, bridge)

/-- The session that a set-up opens, with nothing to fall back to. -/
def Opening.session (o : Opening) : Session := ⟨o.bridge, none, o.now, o.bank⟩

/-- The bridge that a set-up opens, if it is accepted. -/
def Opening.ofSetUp? (now : BlockTime) (bank : Bank) (setup : Setup) :
    Option Opening :=
  match h : Bridge.blank.setUp setup with
  | .ok (receipt, bridge) => some ⟨now, bank, setup, receipt, bridge, h⟩
  | .error _ => none

/-- The session and the history after steps. -/
def Session.follow (s : Session) (h : History) :
    List Session.Step → Session × History
  | [] => (s, h)
  | x :: rest => (s.step x).1.follow (h.note s x) rest

/-- Keeping a history changes nothing about where the steps lead. -/
theorem Session.follow_fst (s : Session) (h : History)
    (steps : List Session.Step) : (s.follow h steps).1 = (s.run steps).1 := by
  induction steps generalizing s h with
  | nil => rfl
  | cons x rest ih => exact ih (s.step x).1 (h.note s x)

/-- A run: one set-up that succeeds, and any other steps after it. -/
structure Run where
  opening : Opening
  steps : List Session.Step
  once : ∀ setup, .setUp setup ∉ steps

namespace Run

/-- The session at the end of a run. -/
def last (r : Run) : Session := (r.opening.session.run r.steps).1

/-- What became of the requests of a run. -/
def history (r : Run) : History :=
  (r.opening.session.follow .empty r.steps).2

/-- A run that has just begun. -/
def fresh (o : Opening) : Run := ⟨o, [], fun _ => List.not_mem_nil⟩

/-- A run that goes on by a step. -/
def extend (r : Run) (x : Session.Step) (hx : ∀ setup, x ≠ .setUp setup) :
    Run where
  opening := r.opening
  steps := r.steps ++ [x]
  once := by
    intro setup hmem
    rcases List.mem_append.mp hmem with hmem | hmem
    · exact r.once setup hmem
    · exact hx setup (List.mem_singleton.mp hmem).symm

end Run

-- ======================================================= what a step can do

/-- What a step can do to the bridge, to the state it would fall back to,
and to the history. -/
inductive Moved (s : Session) (h : History) : Session → History → Prop
  /-- A step of the chain, a question, or a request that is refused. -/
  | still {s' : Session} (bridge : s'.bridge = s.bridge)
      (checkpoint : s'.checkpoint = s.checkpoint) : Moved s h s' h
  | migrated :
      Moved s h
        { s with bridge := { s.bridge with version := some Version.current } }
        h
  | took (t : Taken) (before : t.before = s) :
      Moved s h
        { s with
          bridge := t.after
          checkpoint :=
            if t.receipt.awaits then some s.bridge else s.checkpoint }
        (h.take t)
  | accepted (flying : s.bridge.inFlight ≠ none) :
      Moved s h
        { s with
          bridge := { s.bridge with inFlight := none }, checkpoint := none }
        (h.report true)
  | refused :
      Moved s h
        { s with
          bridge := s.checkpoint.getD s.bridge, checkpoint := none }
        (h.report false)

/-- A move keeps every request of the history. -/
theorem Moved.taken_append {s s' : Session} {h h' : History}
    (hm : Moved s h s' h') : ∃ new, h'.taken = h.taken ++ new := by
  cases hm with
  | still | migrated => exact ⟨[], (List.append_nil _).symm⟩
  | took t => exact ⟨[t], h.taken_take t⟩
  | accepted | refused => exact ⟨[], (List.append_nil _).symm⟩

/-- What the bridge accepts is taken, and recorded as it was accepted. -/
theorem Session.taken?_of_ok {s : Session} {sender : Address}
    {funds : List Coin} {request : Request} {receipt : Receipt} {b : Bridge}
    (h : s.bridge.take s.context sender funds request = .ok (receipt, b)) :
    s.taken? sender funds request
      = some ⟨s, sender, funds, request, receipt, b, h⟩ := by
  unfold taken?
  split
  case h_1 receipt' b' h' =>
    rw [h] at h'
    cases h'
    rfl
  case h_2 e h' =>
    rw [h] at h'
    cases h'

/-- What the bridge refuses is not taken. -/
theorem Session.taken?_of_error {s : Session} {sender : Address}
    {funds : List Coin} {request : Request} {e : BridgeError}
    (h : s.bridge.take s.context sender funds request = .error e) :
    s.taken? sender funds request = none := by
  unfold taken?
  split
  case h_1 receipt' b' h' =>
    rw [h] at h'
    cases h'
  case h_2 e h' => rfl

/-- An attempt that succeeds has made the step it was given, on the bridge as
it stood. -/
theorem Session.attempt_eq_ok {α : Type} {s : Session}
    {step : Bridge → Outcome (α × Bridge)} {a : α}
    (h : (s.attempt step).2 = .ok a) : ∃ b, step s.bridge = .ok (a, b) := by
  unfold attempt at h
  split at h
  next a' b hstep =>
    cases h
    exact ⟨b, hstep⟩
  next => cases h

/-- A request that is answered with a receipt was accepted by the bridge. -/
theorem Session.take_eq_ok {s : Session} {sender : Address}
    {funds : List Coin} {request : Request} {receipt : Receipt}
    (h : (s.take sender funds request).2 = .ok receipt) :
    ∃ b, s.bridge.take s.context sender funds request = .ok (receipt, b) := by
  unfold take at h
  split at h
  next => cases h
  next receipt' b htake =>
    cases h
    exact ⟨b, htake⟩

/-- What is answered with a receipt is taken. -/
theorem Session.takenBy_of_response {σ : Session} {sender : Address}
    {funds : List Coin} {request : Request} {receipt : Receipt}
    (h : (σ.step (.take sender funds request)).2 = .ok (.receipt receipt)) :
    ∃ t, σ.takenBy (.take sender funds request) = some t := by
  obtain ⟨receipt', htake, -⟩ := Outcome.map_eq_ok_iff.mp h
  obtain ⟨b, hb⟩ := take_eq_ok htake
  exact ⟨_, taken?_of_ok hb⟩

/-- What is refused is refused by the bridge. -/
theorem Session.take_of_refusal {σ : Session} {sender : Address}
    {funds : List Coin} {request : Request} {e : BridgeError}
    (h : (σ.step (.take sender funds request)).2 = .error e) :
    σ.bridge.take σ.context sender funds request = .error e := by
  change (σ.take sender funds request).2.map Response.receipt = .error e at h
  unfold take at h
  cases htake : σ.bridge.take σ.context sender funds request with
  | ok result =>
      rw [htake] at h
      cases h
  | error e' =>
      rw [htake] at h
      cases h
      rfl

/-- An answer to a movement that succeeds was accepted by the bridge. -/
theorem Session.reply_eq_ok {s : Session} {id : UInt64}
    {failure : Option String} {receipt : Receipt}
    (h : (s.reply id failure).2 = .ok receipt) :
    ∃ b, s.bridge.reply s.context id failure = .ok (receipt, b) := by
  unfold reply at h
  split at h
  next receipt' b hreply =>
    cases h
    exact ⟨b, hreply⟩
  next => cases h

/-- A request moves the session as it is taken, or leaves it still. -/
theorem Session.moved_of_take (s : Session) (h : History) (sender : Address)
    (funds : List Coin) (request : Request) :
    Moved s h (s.take sender funds request).1
      (h.note s (.take sender funds request)) := by
  show Moved s h _ ((s.taken? sender funds request).elim h h.take)
  unfold take
  cases htake : s.bridge.take s.context sender funds request with
  | error e =>
      rw [taken?_of_error htake]
      exact .still rfl rfl
  | ok result =>
      obtain ⟨receipt, b⟩ := result
      rw [taken?_of_ok htake]
      exact .took ⟨s, sender, funds, request, receipt, b, htake⟩ rfl

/-- An answer lets what waited stand, or brings back the state before it. Which
of the two is settled by the bridge, not by the answer. -/
theorem Session.moved_of_reply (s : Session) (h : History) (id : UInt64)
    (failure : Option String) :
    Moved s h (s.reply id failure).1 (h.note s (.reply id failure)) := by
  show Moved s h _ (h.report (s.bridge.reply s.context id failure).isOk)
  unfold reply
  cases hreply : s.bridge.reply s.context id failure with
  | error e => exact .refused
  | ok result =>
      obtain ⟨receipt, b⟩ := result
      obtain ⟨⟨movement, hflying⟩, rfl, -⟩ := Bridge.reply_eq_ok hreply
      exact .accepted (by rw [hflying]; exact Option.some_ne_none movement)

/-- The clock moves nothing of the bridge, nor does a time no block can
have. -/
theorem Session.moved_of_setTime (s : Session) (h : History)
    (seconds : Nat) : Moved s h (s.setTime seconds).1 h := by
  unfold setTime
  split
  · exact .still rfl rfl
  · exact .still rfl rfl

/-- Every step but a set-up moves the session and its history so. -/
theorem Session.moved_of_step (s : Session) (h : History)
    {x : Session.Step} (hx : ∀ setup, x ≠ .setUp setup) :
    Moved s h (s.step x).1 (h.note s x) := by
  cases x with
  | setUp setup => exact absurd rfl (hx setup)
  | take sender funds request => exact s.moved_of_take h sender funds request
  | reply id failure => exact s.moved_of_reply h id failure
  | migrate => exact .migrated
  | setTime seconds => exact s.moved_of_setTime h _
  | advance seconds => exact s.moved_of_setTime h _
  | ask | setCoins | openContract | setTokens | breakContract
  | garbleContract => exact .still rfl rfl

/-- Steps are followed one list after the other. -/
theorem Session.follow_append (s : Session) (h : History)
    (xs ys : List Session.Step) :
    s.follow h (xs ++ ys) = (s.follow h xs).1.follow (s.follow h xs).2 ys := by
  induction xs generalizing s h with
  | nil => rfl
  | cons x rest ih => exact ih (s.step x).1 (h.note s x)

/-- The last state of a run is the one that its history was kept to. -/
theorem Run.last_eq (r : Run) :
    r.last = (r.opening.session.follow .empty r.steps).1 :=
  (Session.follow_fst _ _ _).symm

/-- A run that goes on has gone one step further. -/
theorem Run.last_extend (r : Run) (x : Session.Step)
    (hx : ∀ setup, x ≠ .setUp setup) :
    (r.extend x hx).last = (r.last.step x).1 := by
  rw [last_eq, last_eq]
  show (r.opening.session.follow .empty (r.steps ++ [x])).1 = _
  rw [Session.follow_append]
  rfl

/-- Its history has noted that one step. -/
theorem Run.history_extend (r : Run) (x : Session.Step)
    (hx : ∀ setup, x ≠ .setUp setup) :
    (r.extend x hx).history = r.history.note r.last x := by
  rw [last_eq]
  show (r.opening.session.follow .empty (r.steps ++ [x])).2 = _
  rw [Session.follow_append]
  rfl

/-- So every statement about a run is one about a single move, from the last
state before it. -/
theorem Run.moved (r : Run) (x : Session.Step)
    (hx : ∀ setup, x ≠ .setUp setup) :
    Moved r.last r.history (r.extend x hx).last (r.extend x hx).history := by
  rw [last_extend, history_extend]
  exact r.last.moved_of_step r.history hx

/-- What holds of a fresh bridge and is kept by every move holds at the end
of every run. -/
theorem Run.induction {I : Session → History → Prop}
    (opened : ∀ o : Opening, I o.session .empty)
    (moved : ∀ {s h s' h'}, I s h → Moved s h s' h' → I s' h') (r : Run) :
    I r.last r.history := by
  have key : ∀ (steps : List Session.Step), (∀ setup, .setUp setup ∉ steps) →
      ∀ s h, I s h → I (s.follow h steps).1 (s.follow h steps).2 := by
    intro steps
    induction steps with
    | nil => exact fun _ s h hI => hI
    | cons x rest ih =>
        intro hsteps s h hI
        have hx : ∀ setup, x ≠ .setUp setup := by
          rintro setup rfl
          exact hsteps setup List.mem_cons_self
        exact ih (fun setup hs => hsteps setup (List.mem_cons_of_mem x hs))
          _ _ (moved hI (s.moved_of_step h hx))
  rw [last_eq]
  exact key r.steps r.once _ _ (opened r.opening)

-- ================================================================ coherence

/-- The bridge, the chain and the history agree on what is in flight: the
chain keeps the state from before the request that waits, and keeps one
exactly while a movement is in flight. -/
structure Coherent (s : Session) (h : History) : Prop where
  flying : s.bridge.inFlight.isSome = s.checkpoint.isSome
  pending : s.checkpoint = h.pending.map fun t => t.before.bridge

namespace Coherent

variable {s : Session} {h : History}

/-- While the bridge is idle there is nothing to fall back to. -/
theorem checkpoint_eq_none (hc : Coherent s h)
    (idle : s.bridge.inFlight = none) : s.checkpoint = none := by
  have := hc.flying
  rw [idle] at this
  exact Option.isNone_iff_eq_none.mp (Option.isSome_eq_false_iff.mp this.symm)

/-- While the bridge is idle no request waits. -/
theorem pending_eq_none (hc : Coherent s h)
    (idle : s.bridge.inFlight = none) : h.pending = none := by
  have := hc.pending
  rw [hc.checkpoint_eq_none idle] at this
  exact Option.map_eq_none_iff.mp this.symm

/-- Every move keeps bridge, chain and history in step. The invariant is
carried by a request being taken only while the bridge is idle, so that two
never wait at once. -/
theorem moved {s' : Session} {h' : History} (hc : Coherent s h)
    (hm : Moved s h s' h') : Coherent s' h' := by
  cases hm with
  | still bridge checkpoint =>
      exact ⟨by rw [bridge, checkpoint]; exact hc.flying,
        by rw [checkpoint]; exact hc.pending⟩
  | migrated => exact ⟨hc.flying, hc.pending⟩
  | took t before =>
      have hidle : s.bridge.inFlight = none := by rw [← before]; exact t.idle
      have hawaits := t.handled.awaits_eq t.idle
      unfold History.take
      -- a request that waits leaves the state before it to fall back to
      cases ha : t.receipt.awaits with
      | true =>
          rw [ha] at hawaits
          exact ⟨hawaits.symm, by rw [← before]; rfl⟩
      | false =>
          rw [ha] at hawaits
          refine ⟨?_, hc.pending⟩
          show t.after.inFlight.isSome = s.checkpoint.isSome
          rw [← hawaits, hc.checkpoint_eq_none hidle]
          rfl
  | accepted flying => exact ⟨rfl, rfl⟩
  -- what is brought back is the state before what waited, which was idle
  | refused =>
      refine ⟨?_, rfl⟩
      show (s.checkpoint.getD s.bridge).inFlight.isSome = false
      cases hp : h.pending with
      | none =>
          have hcheck := hc.pending
          have hflying := hc.flying
          rw [hp] at hcheck
          rw [hcheck] at hflying ⊢
          exact hflying
      | some t =>
          have hcheck := hc.pending
          rw [hp] at hcheck
          rw [hcheck]
          show t.before.bridge.inFlight.isSome = false
          rw [t.idle]
          rfl

end Coherent

/-- A bridge that was just set up is idle, and nothing waits. -/
theorem Opening.coherent (o : Opening) : Coherent o.session .empty := by
  refine ⟨?_, rfl⟩
  obtain ⟨settings, -, hb, -⟩ := Bridge.setUp_eq_ok o.success
  show o.bridge.inFlight.isSome = false
  rw [hb]
  rfl

/-- Bridge, chain and history are in step at the end of every run. -/
theorem Run.coherent (r : Run) : Coherent r.last r.history :=
  r.induction Opening.coherent Coherent.moved

/-- While a request waits for its report, the bridge stays as that request
left it, but for the version mark. -/
def Held (s : Session) (h : History) : Prop :=
  ∀ t, h.pending = some t →
    s.bridge = { t.after with version := s.bridge.version }

/-- While a request waits, nothing but the version mark is written: the bridge
takes no request, and an answer ends the waiting. -/
theorem Held.moved {s s' : Session} {h h' : History} (hh : Held s h)
    (hc : Coherent s h) (hm : Moved s h s' h') : Held s' h' := by
  intro t ht
  cases hm with
  | still bridge checkpoint =>
      rw [bridge]
      exact hh t ht
  | migrated =>
      show { s.bridge with version := some Version.current }
        = { t.after with version := some Version.current }
      rw [hh t ht]
  | took t' before =>
      unfold History.take at ht
      cases ha : t'.receipt.awaits with
      | true =>
          rw [ha] at ht
          cases ht
          rfl
      | false =>
          rw [ha] at ht
          -- nothing can have waited before, as the bridge was idle
          have hidle : s.bridge.inFlight = none := by
            rw [← before]
            exact t'.idle
          have hnone : h.pending = some t := ht
          rw [hc.pending_eq_none hidle] at hnone
          cases hnone
  | accepted flying => cases ht
  | refused => cases ht

/-- What waits has put a movement in flight. -/
theorem Held.flying {s : Session} {h : History} (hh : Held s h)
    (hc : Coherent s h) {t : Taken} (ht : h.pending = some t) :
    t.after.inFlight.isSome = true := by
  have hsame : s.bridge.inFlight = t.after.inFlight := by rw [hh t ht]
  rw [← hsame, hc.flying, hc.pending, ht]
  rfl

/-- Nothing waits in an empty history. -/
theorem Held.empty (s : Session) : Held s .empty := by
  intro t ht
  cases ht

/-- What waits at the end of a run has left the bridge as it now stands. -/
theorem Run.held (r : Run) : Held r.last r.history := by
  have key : Coherent r.last r.history ∧ Held r.last r.history := by
    refine r.induction (I := fun s h => Coherent s h ∧ Held s h)
      (fun o => ⟨o.coherent, Held.empty o.session⟩) ?_
    rintro s h s' h' ⟨hc, hh⟩ hm
    exact ⟨hc.moved hm, hh.moved hc hm⟩
  exact key.2

-- =============================================================== invariants

/-- What holds of the bridge and of the requests taken so far, and goes on
holding: the rules keep it, and so does taking a request back that waited
for a report. It may not depend on the movement in flight nor on the
version mark. -/
structure Invariant (I : List Taken → Bridge → Prop) : Prop where
  opened : ∀ o : Opening, I [] o.bridge
  kept : ∀ past (t : Taken), I past t.before.bridge → I (past ++ [t]) t.after
  undone : ∀ past (t : Taken), t.receipt.awaits = true →
    I past t.before.bridge → I (past ++ [t]) t.before.bridge
  blind : ∀ {past b inFlight version}, I past b →
    I past { b with inFlight, version }

/-- An invariant of the bridge alone: it need only be kept by each rule. -/
theorem Invariant.ofBridge {I : Bridge → Prop}
    (opened : ∀ o : Opening, I o.bridge)
    (kept : ∀ {b c sender funds receipt b' r}, b.inFlight = none →
      Handled b c sender funds receipt b' r → I b → I b')
    (blind : ∀ {b inFlight version}, I b → I { b with inFlight, version }) :
    Invariant fun _ => I where
  opened := opened
  kept := fun _ t => kept t.idle t.handled
  undone := fun _ _ _ hI => hI
  blind := blind

/-- Two invariants hold together. -/
theorem Invariant.and {I J : List Taken → Bridge → Prop} (hI : Invariant I)
    (hJ : Invariant J) : Invariant fun past b => I past b ∧ J past b where
  opened := fun o => ⟨hI.opened o, hJ.opened o⟩
  kept := fun past t h => ⟨hI.kept past t h.1, hJ.kept past t h.2⟩
  undone := fun past t ha h =>
    ⟨hI.undone past t ha h.1, hJ.undone past t ha h.2⟩
  blind := fun h => ⟨hI.blind h.1, hJ.blind h.2⟩

/-- An invariant that leans on another one. -/
theorem Invariant.extend {I J : Bridge → Prop} (inv : Invariant fun _ => I)
    (opened : ∀ o : Opening, J o.bridge)
    (kept : ∀ {b c sender funds receipt b' r}, b.inFlight = none →
      Handled b c sender funds receipt b' r → I b → J b → J b')
    (blind : ∀ {b inFlight version}, J b → J { b with inFlight, version }) :
    Invariant fun _ b => I b ∧ J b where
  opened := fun o => ⟨inv.opened o, opened o⟩
  kept := fun past t h =>
    ⟨inv.kept past t h.1, kept t.idle t.handled h.1 h.2⟩
  undone := fun _ _ _ h => h
  blind := fun {past} _ _ _ h => ⟨@inv.blind past _ _ _ h.1, blind h.2⟩

/-- Where an invariant holds: now, in the state that a refused report would
bring back, and whenever a request was taken. -/
structure Throughout (I : List Taken → Bridge → Prop) (s : Session)
    (h : History) : Prop where
  now : I h.taken s.bridge
  fallback : ∀ b, s.checkpoint = some b → I h.taken b
  once : ∀ past t future, h.taken = past ++ t :: future →
    I past t.before.bridge

/-- Splitting a list that was extended: the split is in the old part, or
at the new element. -/
private theorem split_snoc {α : Type} {l past future : List α} {x t : α}
    (h : l ++ [x] = past ++ t :: future) :
    (past = l ∧ t = x) ∨ ∃ rest, l = past ++ t :: rest := by
  rcases List.eq_nil_or_concat future with rfl | ⟨rest, y, rfl⟩
  · obtain ⟨hl, hx⟩ := List.append_inj' h rfl
    cases hx
    exact .inl ⟨hl.symm, rfl⟩
  · rw [List.concat_eq_append, ← List.cons_append, ← List.append_assoc] at h
    obtain ⟨hl, -⟩ := List.append_inj' h rfl
    exact .inr ⟨rest, hl⟩

/-- An invariant holds wherever it has to after every move: it is kept by what
is taken, and by the state that a refused answer would bring back. -/
theorem Invariant.moved {I : List Taken → Bridge → Prop} (inv : Invariant I)
    {s s' : Session} {h h' : History} (hc : Coherent s h)
    (hI : Throughout I s h) (hm : Moved s h s' h') : Throughout I s' h' := by
  cases hm with
  | still bridge checkpoint =>
      exact ⟨by rw [bridge]; exact hI.now,
        by rw [checkpoint]; exact hI.fallback, hI.once⟩
  | migrated => exact ⟨inv.blind hI.now, hI.fallback, hI.once⟩
  | took t before =>
      subst before
      refine ⟨?_, ?_, ?_⟩
      · rw [History.taken_take]
        exact inv.kept _ t hI.now
      · intro b hb
        rw [History.taken_take]
        cases ha : t.receipt.awaits with
        | true =>
            -- what is taken and waits leaves the state before it, where the
            -- invariant held
            rw [ha, if_pos rfl] at hb
            cases hb
            exact inv.undone _ t ha hI.now
        | false =>
            rw [ha, if_neg Bool.false_ne_true] at hb
            rw [hc.checkpoint_eq_none t.idle] at hb
            cases hb
      · intro past t' future hsplit
        rw [History.taken_take] at hsplit
        -- the request just taken, or one of those before it
        rcases split_snoc hsplit with ⟨rfl, rfl⟩ | ⟨rest, hrest⟩
        · exact hI.now
        · exact hI.once past t' rest hrest
  | accepted flying =>
      exact ⟨inv.blind hI.now, fun b hb => (by cases hb), hI.once⟩
  | refused =>
      refine ⟨?_, fun b hb => (by cases hb), hI.once⟩
      show I h.taken (s.checkpoint.getD s.bridge)
      cases hb : s.checkpoint with
      | none => exact hI.now
      | some b => exact hI.fallback b hb

/-- A run begins with the invariant holding and nothing taken. -/
theorem Invariant.opening {I : List Taken → Bridge → Prop}
    (inv : Invariant I) (o : Opening) : Throughout I o.session .empty := by
  refine ⟨inv.opened o, fun b hb => (by cases hb), ?_⟩
  intro past t future hsplit
  exact absurd hsplit.symm (List.append_ne_nil_of_right_ne_nil past
    (List.cons_ne_nil t future))

/-- What is kept by every move from a state where an invariant holds
throughout holds at the end of every run, and so does the invariant. -/
theorem Invariant.induction {J : List Taken → Bridge → Prop}
    (inv : Invariant J) {I : Session → History → Prop}
    (opened : ∀ o : Opening, I o.session .empty)
    (moved : ∀ {s h s' h'}, Coherent s h → Throughout J s h → I s h →
      Moved s h s' h' → I s' h') (r : Run) :
    Throughout J r.last r.history ∧ I r.last r.history := by
  have key : Coherent r.last r.history ∧ Throughout J r.last r.history
      ∧ I r.last r.history := by
    refine r.induction (I := fun s h => Coherent s h ∧ Throughout J s h
      ∧ I s h) (fun o => ⟨o.coherent, inv.opening o, opened o⟩) ?_
    rintro s h s' h' ⟨hc, hJ, hI⟩ hm
    exact ⟨hc.moved hm, inv.moved hc hJ hm, moved hc hJ hI hm⟩
  exact key.2

/-- An invariant holds throughout every run. -/
theorem Invariant.throughout {J : List Taken → Bridge → Prop}
    (inv : Invariant J) (r : Run) : Throughout J r.last r.history :=
  (inv.induction (I := fun _ _ => True) (fun _ => trivial)
    (fun _ _ _ _ => trivial) r).1

-- =============================================================== accounting

/-- The sum of what requests count. -/
def sumOver (ts : List Taken) (f : Taken → Nat) : Nat := (ts.map f).sum

/-- Requests one after the other count what both parts count. -/
theorem sumOver_append (ts us : List Taken) (f : Taken → Nat) :
    sumOver (ts ++ us) f = sumOver ts f + sumOver us f := by
  unfold sumOver
  rw [List.map_append, List.sum_append]

/-- One request counts what it counts. -/
theorem sumOver_single (t : Taken) (f : Taken → Nat) :
    sumOver [t] f = f t := by
  unfold sumOver
  rw [List.map_singleton, List.sum_singleton]

/-- Requests that count nothing come to nothing. -/
theorem sumOver_zero (ts : List Taken) : sumOver ts (fun _ => 0) = 0 := by
  unfold sumOver
  induction ts with
  | nil => rfl
  | cons t rest ih => rw [List.map_cons, List.sum_cons, ih]

/-- A quantity of the bridge that starts at nothing and that every request
changes by what it gains less what it loses. -/
structure Balanced (I : Bridge → Prop) (worth : Bridge → Nat)
    (gain loss : Taken → Nat) : Prop where
  opened : ∀ o : Opening, worth o.bridge = 0
  kept : ∀ t : Taken, I t.before.bridge →
    worth t.after + loss t = worth t.before.bridge + gain t
  blind : ∀ {b inFlight version},
    worth { b with inFlight, version } = worth b

/-- The books over some requests balance with what the bridge is worth. -/
def Books (worth : Bridge → Nat) (gain loss : Taken → Nat) (b : Bridge)
    (ts : List Taken) : Prop :=
  worth b + sumOver ts loss = sumOver ts gain

/-- Books that balanced go on to balance with one request more. -/
theorem Books.snoc {I : Bridge → Prop} {worth : Bridge → Nat}
    {gain loss : Taken → Nat} (bal : Balanced I worth gain loss)
    {ts : List Taken} {t : Taken} (hI : I t.before.bridge)
    (hb : Books worth gain loss t.before.bridge ts) :
    Books worth gain loss t.after (ts ++ [t]) := by
  unfold Books at hb ⊢
  rw [sumOver_append, sumOver_append, sumOver_single, sumOver_single]
  have := bal.kept t hI
  omega

/-- Both books balance: those over all that stands so far with the bridge,
and those over what stands for good with the state it would fall back to. -/
structure Accounted (worth : Bridge → Nat) (gain loss : Taken → Nat)
    (s : Session) (h : History) : Prop where
  now : Books worth gain loss s.bridge h.committed
  fallback : Books worth gain loss (s.checkpoint.getD s.bridge) h.settled

/-- Both books balance after every move. A request that waits is booked in the
first and not in the second, and which of them is right is known when the
answer comes. -/
theorem Balanced.moved {I : Bridge → Prop} {worth : Bridge → Nat}
    {gain loss : Taken → Nat} (bal : Balanced I worth gain loss)
    {s s' : Session} {h h' : History} (hc : Coherent s h)
    (hI : I s.bridge) (ha : Accounted worth gain loss s h)
    (hm : Moved s h s' h') : Accounted worth gain loss s' h' := by
  cases hm with
  | still bridge checkpoint =>
      exact ⟨by rw [bridge]; exact ha.now,
        by rw [bridge, checkpoint]; exact ha.fallback⟩
  | migrated =>
      refine ⟨?_, ?_⟩
      · have hnow := ha.now
        unfold Books at hnow ⊢
        -- the version mark is worth nothing
        rw [bal.blind]
        exact hnow
      · have hfall := ha.fallback
        cases hb : s.checkpoint with
        | none =>
            rw [hb] at hfall
            unfold Books at hfall ⊢
            show worth { s.bridge with version := _ } + _ = _
            rw [bal.blind]
            exact hfall
        | some b =>
            rw [hb] at hfall
            exact hfall
  | took t before =>
      subst before
      -- before a request the two books are one
      have hnow : Books worth gain loss t.before.bridge h.settled := by
        have := ha.fallback
        rw [hc.checkpoint_eq_none t.idle] at this
        exact this
      have hnext := Books.snoc bal hI hnow
      unfold History.take
      cases haw : t.receipt.awaits with
      | true => exact ⟨hnext, hnow⟩
      | false =>
          refine ⟨?_, ?_⟩
          · show Books worth gain loss t.after
              ((h.settled ++ [t]) ++ h.pending.toList)
            rw [hc.pending_eq_none t.idle]
            simpa using hnext
          · show Books worth gain loss (t.before.checkpoint.getD t.after)
              (h.settled ++ [t])
            rw [hc.checkpoint_eq_none t.idle]
            exact hnext
  | accepted flying =>
      have hnow := ha.now
      unfold Books at hnow
      refine ⟨?_, ?_⟩
      · show Books worth gain loss { s.bridge with inFlight := none }
          (h.committed ++ [])
        unfold Books
        -- what waited stands, so both books have it
        rw [bal.blind, List.append_nil]
        exact hnow
      · show Books worth gain loss { s.bridge with inFlight := none }
          h.committed
        unfold Books
        rw [bal.blind]
        exact hnow
  | refused =>
      refine ⟨?_, ha.fallback⟩
      -- what waited is undone, so neither book has it
      show Books worth gain loss (s.checkpoint.getD s.bridge)
        (h.settled ++ [])
      rw [List.append_nil]
      exact ha.fallback

/-- At every moment of a run the bridge is worth what the requests that
stand have gained less what they have lost. -/
theorem Balanced.books {I : Bridge → Prop} {worth : Bridge → Nat}
    {gain loss : Taken → Nat} (bal : Balanced I worth gain loss)
    (inv : Invariant fun _ => I) (r : Run) :
    Books worth gain loss r.last.bridge r.history.committed := by
  have hopened : ∀ o : Opening,
      Accounted worth gain loss o.session .empty := by
    intro o
    have hfresh : Books worth gain loss o.bridge [] := by
      unfold Books
      rw [bal.opened o]
      rfl
    exact ⟨hfresh, hfresh⟩
  have key := inv.induction hopened
    (fun hc hI ha hm => bal.moved hc hI.now ha hm) r
  exact key.2.now

end TokenBridge
