/-
Reading a success backwards.

The rules of the bridge are written as chains of guards: each link either
refuses or hands a value to the next. These lemmas take such a chain apart
from its result. If the whole succeeded, every link did, and what it handed
on is named; a rule is read by rewriting with them and needs no case split
on the guards that would have refused.
-/
import TokenBridge.Error

namespace TokenBridge.Outcome

variable {α β γ : Type}

/-- A chain succeeds exactly if its first link does and the rest does
with what the first handed on. -/
theorem bind_eq_ok_iff {x : Outcome α} {f : α → Outcome β} {r : β} :
    (x >>= f) = .ok r ↔ ∃ a, x = .ok a ∧ f a = .ok r := by
  cases x with
  | ok a =>
      constructor
      · intro h
        exact ⟨a, rfl, h⟩
      · rintro ⟨a', ha, h⟩
        cases ha
        exact h
  | error e =>
      constructor
      · intro h
        cases h
      · rintro ⟨a', ha, -⟩
        cases ha

/-- A computation that only returns has succeeded with what it returns. -/
theorem pure_eq_ok_iff {a r : α} :
    (pure a : Outcome α) = .ok r ↔ a = r := by
  show (Except.ok a : Outcome α) = .ok r ↔ a = r
  rw [Except.ok.injEq]

/-- A guard lets pass exactly if its condition holds. -/
theorem require_eq_ok_iff {condition : Bool} {e : BridgeError} {u : Unit} :
    require condition e = .ok u ↔ condition = true := by
  unfold require
  cases condition with
  | true => simp
  | false => simp

/-- A value that may be absent succeeds as itself where it is present, and
fails without a cause of its own where it is not. -/
theorem ofOption_eq_ok_iff {x : Option α} {r : α} :
    ofOption x = .ok r ↔ x = some r := by
  cases x with
  | none => simp [ofOption]
  | some a => simp [ofOption]

/-- A refusal in other words is still one. -/
theorem mapError_eq_ok_iff {ε : Type} {x : Except ε α} {f : ε → BridgeError}
    {r : α} : (x.mapError f : Outcome α) = .ok r ↔ x = .ok r := by
  cases x with
  | ok a =>
      constructor
      · intro h
        cases h
        rfl
      · intro h
        cases h
        rfl
  | error e =>
      constructor
      · intro h
        cases h
      · intro h
        cases h

/-- What is done to the result of a success changes nothing about whether there
is one. -/
theorem map_eq_ok_iff {x : Outcome α} {f : α → β} {r : β} :
    (x.map f : Outcome β) = .ok r ↔ ∃ a, x = .ok a ∧ f a = r := by
  cases x with
  | ok a => simp [Except.map]
  | error e => simp [Except.map]

/-- A step that has succeeded hands its result on. -/
theorem ok_bind {a : α} {f : α → Outcome β} :
    (Except.ok a : Outcome α) >>= f = f a := rfl

/-- Chains that begin alike are alike if they go on alike with what the first
link hands on. -/
theorem bind_congr_ok {x : Outcome α} {f g : α → Outcome β}
    (same : ∀ a, x = .ok a → f a = g a) : x >>= f = x >>= g := by
  cases x with
  | ok a => exact same a rfl
  | error e => rfl

/-- A chain that is refused for a reason its first link never gives got past
that link. -/
theorem past_of_bind_eq_error {x : Outcome α} {f : α → Outcome β}
    {e : BridgeError} (h : x >>= f = .error e) (other : x ≠ .error e) :
    ∃ a, x = .ok a ∧ f a = .error e := by
  cases x with
  | ok a => exact ⟨a, rfl, h⟩
  | error e' =>
      cases h
      exact absurd rfl other

/-- A guard gives its own reason only. -/
theorem require_ne_error {condition : Bool} {e e' : BridgeError}
    (other : e ≠ e') : require condition e ≠ .error e' := by
  unfold require
  cases condition with
  | true => nofun
  | false => exact fun h => other (Except.error.inj h)

/-- What comes after a chain can be done in its last link. -/
theorem map_bind {x : Outcome α} {f : α → Outcome β} {h : β → γ} :
    (x >>= f).map h = x >>= fun a => (f a).map h := by
  cases x with
  | ok a => rfl
  | error e => rfl

/-- What comes after a link can be done in the next. -/
theorem bind_map {x : Outcome α} {h : α → β} {f : β → Outcome γ} :
    x.map h >>= f = x >>= fun a => f (h a) := by
  cases x with
  | ok a => rfl
  | error e => rfl

end TokenBridge.Outcome
