/-
Stretches of a run.

A run goes on to another, step by step, and everything before the end of a
run is a run itself. So a condition on what happens along the way is a
condition on pairs, the run so far and the step that comes next: it is put
on all steps of a run (`Run.EveryStep`), or on those of a stretch between
two runs (`Run.EveryStepTo`). What a step keeps under the condition, a
whole run or a whole stretch keeps, and the induction for that is done
here.

What a step does in a run is said by `Run.Stepped`, in three cases. It knows
more than a move of the session: where a request is undone, when that was
taken and that it has waited since, and where time passes, that nothing else
happens.
-/
import TokenBridge.Proofs.Atomicity

namespace TokenBridge

/-- A run goes on to another, by any number of steps. -/
inductive Run.Onward : Run → Run → Prop
  | refl (r : Run) : Onward r r
  | step {r r' : Run} (h : Onward r r') (x : Session.Step)
      (hx : ∀ setup, x ≠ .setUp setup) : Onward r (r'.extend x hx)

theorem Run.Onward.trans {r₁ r₂ r₃ : Run} (h : r₁.Onward r₂)
    (h' : r₂.Onward r₃) : r₁.Onward r₃ := by
  induction h' with
  | refl => exact h
  | step h' x hx ih => exact ih.step x hx

theorem Run.Onward.mem_steps {r r' : Run} (h : r.Onward r')
    {x : Session.Step} (hx : x ∈ r.steps) : x ∈ r'.steps := by
  induction h with
  | refl => exact hx
  | step h y hy ih => exact List.mem_append_left _ ih

/-- A run goes on from its own set-up, and so does all it goes on to. -/
theorem Run.onward_fresh (r : Run) : (Run.fresh r.opening).Onward r := by
  induction r using stepwise with
  | fresh o => exact .refl _
  | extend r x hx ih => exact ih.step x hx

theorem Run.Onward.opening_eq {r r' : Run} (h : r.Onward r') :
    r'.opening = r.opening := by
  induction h with
  | refl => rfl
  | step h x hx ih => exact ih

/-- A condition on the steps of a run, each with the run before it. -/
def Run.EveryStep (r : Run) (p : Run → Session.Step → Prop) : Prop :=
  ∀ r₀ x hx, (r₀.extend x hx).Onward r → p r₀ x

/-- A condition on the steps between two runs. -/
def Run.EveryStepTo (r r' : Run) (p : Run → Session.Step → Prop) : Prop :=
  ∀ r₀ x hx, r.Onward r₀ → (r₀.extend x hx).Onward r' → p r₀ x

namespace Run

variable {p : Run → Session.Step → Prop} {q : Run → Prop} {r r' : Run}

/-- A condition on every step is one on every earlier step. -/
theorem EveryStep.before {x : Session.Step} {hx : ∀ setup, x ≠ .setUp setup}
    (h : (r.extend x hx).EveryStep p) : r.EveryStep p :=
  fun r₀ y hy honward => h r₀ y hy (honward.step x hx)

/-- It is also one on the last. -/
theorem EveryStep.last {x : Session.Step} {hx : ∀ setup, x ≠ .setUp setup}
    (h : (r.extend x hx).EveryStep p) : p r x :=
  h r x hx (.refl _)

theorem EveryStep.earlier (h : r'.EveryStep p) (honward : r.Onward r') :
    r.EveryStep p :=
  fun r₀ x hx h₀ => h r₀ x hx (h₀.trans honward)

/-- What every step keeps under a condition holds of every run whose steps
meet it. -/
theorem EveryStep.induction (h : r.EveryStep p) (fresh : ∀ o, q (.fresh o))
    (extend : ∀ (r : Run) (x : Session.Step) (hx : ∀ setup, x ≠ .setUp setup),
      (r.extend x hx).EveryStep p → q r → q (r.extend x hx)) : q r := by
  induction r using stepwise with
  | fresh o => exact fresh o
  | extend r x hx ih => exact extend r x hx h (ih h.before)

/-- What every step of a stretch keeps holds at its end, if it holds at its
beginning. -/
theorem Onward.induction (honward : r.Onward r') (start : q r)
    (step : ∀ (r₀ : Run) (x : Session.Step)
      (hx : ∀ setup, x ≠ .setUp setup), r.Onward r₀ →
      (r₀.extend x hx).Onward r' → q r₀ → q (r₀.extend x hx)) : q r' := by
  induction honward with
  | refl => exact start
  | step honward x hx ih =>
      refine step _ x hx honward (.refl _) (ih fun r₀ y hy h₀ h₁ => ?_)
      exact step r₀ y hy h₀ (h₁.step x hx)

end Run

-- ============================================================== quiet steps

/-- A step that neither takes a request nor is a report leaves the bridge as
it is, but for the version mark. -/
theorem Session.step_quiet {s : Session} {x : Session.Step}
    (hx : ∀ setup, x ≠ .setUp setup) (untaken : s.takenBy x = none)
    (unreported : x.isReply = false) :
    ∃ version, (s.step x).1.bridge = { s.bridge with version }
      ∧ (s.step x).1.checkpoint = s.checkpoint := by
  have hclock : ∀ seconds, (s.setTime seconds).1.bridge = s.bridge
      ∧ (s.setTime seconds).1.checkpoint = s.checkpoint := by
    intro seconds
    unfold setTime
    split
    · exact ⟨rfl, rfl⟩
    · exact ⟨rfl, rfl⟩
  cases x with
  | setUp setup => exact absurd rfl (hx setup)
  | reply id failure => cases unreported
  | take sender funds request =>
      change s.taken? sender funds request = none at untaken
      show ∃ version, (s.take sender funds request).1.bridge
          = { s.bridge with version }
        ∧ (s.take sender funds request).1.checkpoint = s.checkpoint
      unfold take
      cases htake : s.bridge.take s.context sender funds request with
      | error e => exact ⟨s.bridge.version, rfl, rfl⟩
      | ok result =>
          rw [taken?_of_ok htake] at untaken
          cases untaken
  | migrate => exact ⟨some Version.current, rfl, rfl⟩
  | setTime seconds => exact ⟨s.bridge.version, hclock _⟩
  | advance seconds => exact ⟨s.bridge.version, hclock _⟩
  | ask | setCoins | openContract | setTokens | breakContract
  | garbleContract => exact ⟨s.bridge.version, rfl, rfl⟩

/-- A step of the clock. -/
def Session.Step.isClock : Session.Step → Bool
  | .setTime _ => true
  | .advance _ => true
  | _ => false

/-- Only those change the time. -/
theorem Session.step_now {s : Session} {x : Session.Step}
    (hx : x.isClock = false) : (s.step x).1.now = s.now := by
  cases x with
  | setTime seconds => cases hx
  | advance seconds => cases hx
  | setUp setup =>
      show (s.setUp setup).1.now = s.now
      unfold setUp attempt
      split <;> rfl
  | take sender funds request =>
      show (s.take sender funds request).1.now = s.now
      unfold take
      split <;> rfl
  | reply id failure =>
      show (s.reply id failure).1.now = s.now
      unfold reply
      split <;> rfl
  | ask | migrate | setCoins | openContract | setTokens | breakContract
  | garbleContract => rfl

theorem Awaiting.onward {origin r : Run} {t : Taken}
    (h : Awaiting origin t r) : origin.Onward r := by
  induction h with
  | sent x hx taken awaits => exact .step (.refl _) x hx
  | wait h x hx untaken unreported ih => exact ih.step x hx

-- =============================================================== every step

/-- What a step of a run does: it takes a request; it is a report that is
refused and undoes the request that waited for it; or it leaves the bridge
as it is, but for the movement in flight and the version mark. -/
inductive Run.Stepped (r : Run) (x : Session.Step) : Session → Prop
  /-- A request is taken; if it awaits a report, the state before it is
  kept. -/
  | took {t : Taken} (taken : r.last.takenBy x = some t) :
      Stepped r x { r.last with
        bridge := t.after
        checkpoint :=
          if t.receipt.awaits then some r.last.bridge
          else r.last.checkpoint }
  /-- A report is refused, which brings that state back. -/
  | undone {origin : Run} {t : Taken} {e : BridgeError}
      (waits : Awaiting origin t r) (reports : x.isReply = true)
      (refused : (r.last.step x).2 = .error e) :
      Stepped r x { r.last with
        bridge := t.before.bridge, checkpoint := none }
  /-- Nothing is stored but the version and what is in flight. -/
  | quiet {s : Session} {inFlight : Option Movement}
      {version : Option Version}
      (bridge : s.bridge = { r.last.bridge with inFlight, version })
      (now : x.isClock = false → s.now = r.last.now) : Stepped r x s

/-- A report is accepted and settles its movement, is refused and undoes it, or
finds none and changes nothing. -/
theorem Run.stepped_of_reply (r : Run) (id : UInt64)
    (failure : Option String) :
    r.Stepped (.reply id failure)
      (r.last.step (.reply id failure)).1 := by
  cases hreply : r.last.bridge.reply r.last.context id failure with
  | ok result =>
      rw [Session.step_reply_of_ok hreply]
      obtain ⟨-, hcleared, -⟩ := Bridge.reply_eq_ok hreply
      exact .quiet hcleared fun _ => rfl
  | error e =>
      have hstep := Session.step_reply_of_error hreply
      cases hp : r.history.pending with
      | none =>
          have hnone : r.last.checkpoint = none := by
            rw [r.coherent.pending, hp]
            rfl
          have hsame : r.last.bridge = { r.last.bridge with
              inFlight := r.last.bridge.inFlight
              version := r.last.bridge.version } := rfl
          rw [hstep, hnone]
          exact .quiet hsame fun _ => rfl
      | some t =>
          obtain ⟨origin, hwait⟩ := r.awaiting_of_pending hp
          have hundone := Stepped.undone hwait rfl (congrArg Prod.snd hstep)
          rw [hstep, hwait.checkpoint_eq, ← hwait.before_eq]
          exact hundone

/-- Every step of a run does one of these. -/
theorem Run.stepped (r : Run) {x : Session.Step}
    (hx : ∀ setup, x ≠ .setUp setup) : r.Stepped x (r.last.step x).1 := by
  cases ht : r.last.takenBy x with
  | some t =>
      rw [Session.step_of_takenBy ht]
      exact .took ht
  | none =>
      cases hreply : x.isReply with
      | true =>
          cases x with
          | reply id failure => exact r.stepped_of_reply id failure
          | _ => cases hreply
      | false =>
          obtain ⟨version, hbridge, -⟩ := Session.step_quiet hx ht hreply
          exact .quiet hbridge Session.step_now

end TokenBridge
