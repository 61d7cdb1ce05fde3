/-
The look-ups and guards of the bridge, read backwards.

Each lemma says exactly when a look-up or a guard succeeds and what it
hands on, as a fact about the tables. The rules of the bridge use nothing
else of these functions, so no proof about a rule opens them again.
-/
import TokenBridge.Proofs.Outcome
import TokenBridge.State

namespace TokenBridge

open Outcome

-- ================================================================== amounts

theorem Amount.toNat_zero : Amount.zero.toNat = 0 := rfl

/-- The test for nothing is a test of the number: an amount has one form
only. -/
theorem Amount.isZero_iff {a : Amount} : a.isZero = true ↔ a.toNat = 0 := by
  unfold Amount.isZero
  exact beq_iff_eq

theorem Amount.isZero_eq_false_iff {a : Amount} :
    a.isZero = false ↔ a.toNat ≠ 0 := by
  unfold Amount.isZero
  exact beq_eq_false_iff_ne

/-- What an amount has over another is the subtraction of natural numbers,
which stops at zero. -/
theorem Amount.toNat_excess (a b : Amount) :
    (a.excess b).toNat = a.toNat - b.toNat := rfl

/-- An amount is determined by its number, so there is one of nothing. -/
theorem Amount.eq_zero_of_toNat {a : Amount} (h : a.toNat = 0) :
    a = Amount.zero :=
  Amount.ext h

namespace Bridge

variable {b : Bridge}

-- ================================================================= look-ups

/-- The settings are read as they are stored. A bridge that has not been set up
has none. -/
theorem loadSettings_eq_ok_iff {s : Settings} :
    b.loadSettings = .ok s ↔ b.settings = some s := by
  unfold loadSettings
  cases b.settings with
  | none => simp
  | some s₀ => simp

/-- The next nonce is read as it is stored, and missing with the settings. -/
theorem loadNextNonce_eq_ok_iff {n : UInt64} :
    b.loadNextNonce = .ok n ↔ b.nextNonce = some n := by
  unfold loadNextNonce
  cases b.nextNonce with
  | none => simp
  | some n₀ => simp

/-- Only an enabled token is found. -/
theorem loadToken_eq_ok_iff {id : String} {t : Token} :
    b.loadToken id = .ok t ↔
      b.tokens.get? id = some t ∧ t.enabled = true := by
  unfold loadToken
  cases b.tokens.get? id with
  | none => simp
  | some t₀ =>
      cases he : t₀.enabled with
      | true =>
          simp only [he, if_true, Except.ok.injEq, Option.some.injEq]
          constructor
          · rintro rfl
            exact ⟨rfl, he⟩
          · exact fun h => h.1
      | false =>
          simp only [he, Bool.false_eq_true, if_false, reduceCtorEq,
            Option.some.injEq, false_iff]
          rintro ⟨rfl, ht⟩
          rw [he] at ht
          cases ht

/-- What names a registered chain names a chain. -/
theorem registeredChain_eq_ok {bytes : List UInt8} {id : ChainId}
    (h : b.registeredChain bytes = .ok id) :
    ChainId.ofBytes bytes = .ok id := by
  simp only [registeredChain, bind_eq_ok_iff, mapError_eq_ok_iff,
    pure_eq_ok_iff] at h
  obtain ⟨id', hread, -, -, rfl⟩ := h
  exact hread

-- =================================================================== guards

/-- The administrator is let pass with the settings, which the handler goes on
to use; nobody else is. -/
theorem requireAdmin_eq_ok_iff {sender : Address} {s : Settings} :
    b.requireAdmin sender = .ok s ↔
      b.settings = some s ∧ sender = s.admin := by
  simp only [requireAdmin, bind_eq_ok_iff, require_eq_ok_iff,
    pure_eq_ok_iff, loadSettings_eq_ok_iff, exists_const, decide_eq_true_eq]
  constructor
  · rintro ⟨s₀, hs, ha, rfl⟩
    exact ⟨hs, ha⟩
  · rintro ⟨hs, ha⟩
    exact ⟨s, hs, ha, rfl⟩

/-- A bridge is idle while no token movement waits for its answer. -/
theorem requireIdle_eq_ok_iff {u : Unit} :
    b.requireIdle = .ok u ↔ b.inFlight = none := by
  unfold requireIdle
  rw [require_eq_ok_iff, Option.isNone_iff_eq_none]

-- ========================================================== locked balances

/-- Locking writes the sum and nothing else. -/
theorem increaseLocked_eq_ok {id : String} {amount total : Amount}
    {b' : Bridge} (h : b.increaseLocked id amount = .ok (total, b')) :
    (b.lockedBalance id).toNat + amount.toNat = total.toNat
      ∧ b' = { b with locked := b.locked.insert id total } := by
  unfold increaseLocked at h
  cases hadd : (b.lockedBalance id).add? amount with
  | none => rw [hadd] at h; cases h
  | some total₀ =>
      rw [hadd] at h
      cases h
      exact ⟨Amount.add?_eq_some_iff.mp hadd, rfl⟩

/-- Unlocking writes what is left and nothing else. -/
theorem decreaseLocked_eq_ok {id : String} {amount left : Amount}
    {b' : Bridge} (h : b.decreaseLocked id amount = .ok (left, b')) :
    left.toNat + amount.toNat = (b.lockedBalance id).toNat
      ∧ b' = { b with locked := b.locked.insert id left } := by
  unfold decreaseLocked at h
  cases hsub : (b.lockedBalance id).sub? amount with
  | none => rw [hsub] at h; cases h
  | some left₀ =>
      rw [hsub] at h
      cases h
      exact ⟨Amount.sub?_eq_some_iff.mp hsub, rfl⟩

end Bridge

end TokenBridge
