/-
No calculation leaves its range.

The bridge adds, subtracts and multiplies amounts in a few places where it
would rather fault than refuse: the fee of a deposit and what is left of it,
the payout after a deducted fee, the fee that a payout reports, and the next
nonce and the next place in a role. Everything else either refuses or stops
at the largest word.

`Faults` goes through a chain of guards from front to back, and the
simp lemmas of the first section say how: a link that only reads or refuses
drops out, and what is left of a rule are its calculations. Those of the
fees are settled by the cap on rates, those of a payout by what was checked
when its fee was put on. So two causes remain, a nonce or a place that is
the largest word already.
-/
import TokenBridge.Proofs.Rates
import TokenBridge.Proofs.Records
import TokenBridge.Proofs.Stretch

namespace TokenBridge

-- =================================================================== faults

/-- A calculation has left its range. -/
def Faults {α : Type} (x : Outcome α) : Prop :=
  x = .error .arithmetic

namespace Outcome

variable {α β : Type} {x : Outcome α}

/-- A result is no fault. -/
@[simp] theorem faults_ok {a : α} : ¬ Faults (.ok a : Outcome α) := nofun

/-- Nor is a value returned on its own. -/
@[simp] theorem faults_pure {a : α} : ¬ Faults (pure a : Outcome α) := nofun

/-- Of all errors, only the arithmetic one is a fault. -/
@[simp] theorem faults_error {e : BridgeError} :
    Faults (.error e : Outcome α) ↔ e = .arithmetic := by
  unfold Faults
  rw [Except.error.injEq]

/-- A chain faults in its first link, or in the rest. -/
@[simp] theorem faults_bind {f : α → Outcome β} :
    Faults (x >>= f) ↔ Faults x ∨ ∃ a, x = .ok a ∧ Faults (f a) := by
  unfold Faults
  cases x with
  | ok a =>
      constructor
      · exact fun h => .inr ⟨a, rfl, h⟩
      · rintro (h | ⟨a', ha, h⟩)
        · cases h
        · cases ha
          exact h
  | error e =>
      constructor
      · intro h
        cases h
        exact .inl rfl
      · rintro (h | ⟨a', ha, h⟩)
        · cases h
          rfl
        · cases ha

/-- Mapping the result leaves a fault as it is. -/
@[simp] theorem faults_map {f : α → β} :
    Faults (x.map f) ↔ Faults x := by
  unfold Faults
  cases x with
  | ok a => exact iff_of_false nofun nofun
  | error e => exact ⟨fun h => by cases h; rfl, fun h => by cases h; rfl⟩

@[simp] theorem faults_fmap {f : α → β} : Faults (f <$> x) ↔ Faults x :=
  faults_map

/-- A guard faults only where the arithmetic error is what it gives. -/
@[simp] theorem faults_require {condition : Bool} {e : BridgeError} :
    Faults (require condition e) ↔ condition = false ∧ e = .arithmetic := by
  unfold require
  cases condition <;> simp

/-- What is said in other words faults if these do. -/
theorem not_faults_mapError {ε : Type} {r : Except ε α}
    {f : ε → BridgeError} (h : ∀ e, f e ≠ .arithmetic) :
    ¬ Faults (r.mapError f) := by
  cases r with
  | ok a => exact nofun
  | error e =>
      intro hfault
      exact h e (Except.error.inj hfault)

/-- What the host answers is refused in its own words. -/
@[simp] theorem faults_ofHost {r : Except HostError α} :
    ¬ Faults (ofHost r) :=
  not_faults_mapError nofun

/-- A calculation without a result is the one source of faults. -/
@[simp] theorem faults_ofOption {r : Option α} :
    Faults (ofOption r) ↔ r = none := by
  cases r with
  | none => exact iff_of_true rfl rfl
  | some a => exact iff_of_false nofun nofun

end Outcome

-- ================================================================== reading

section

variable {b : Bridge} {c : Context}

/-- Each way an address can be wrong has an error of its own. -/
@[simp] theorem checkAddress_not_faults {text : String} :
    ¬ Faults (checkAddress text) := by
  unfold checkAddress
  dsimp only
  -- too short, too long, cut within a character, or not normalized
  split
  · simp
  · split
    · simp
    · split
      · simp
      · split <;> simp

@[simp] theorem localAccount_not_faults {account : Address} :
    ¬ Faults (localAccount account) := by
  unfold localAccount
  split <;> simp

@[simp] theorem hashOf_not_faults {bytes : List UInt8} :
    ¬ Faults (hashOf bytes) := by
  unfold hashOf
  split <;> simp

/-- A source account is a word that some chain accepts, or it is refused. -/
@[simp] theorem srcAccountOf_not_faults {bytes : List UInt8} :
    ¬ Faults (srcAccountOf bytes) := by
  unfold srcAccountOf
  split
  · simp
  · split <;> simp

@[simp] theorem destAccountOf_not_faults {bytes : List UInt8} :
    ¬ Faults (destAccountOf bytes) := by
  unfold destAccountOf
  split
  · simp
  · split <;> simp

@[simp] theorem singleCoin_not_faults {funds : List Coin} :
    ¬ Faults (singleCoin funds) := by
  unfold singleCoin
  split <;> simp

/-- Coins of another denomination are refused, and so is a sum that grows too
large. -/
@[simp] theorem nativeFunds_not_faults {denom : String} {funds : List Coin}
    {total : Amount} : ¬ Faults (nativeFunds denom total funds) := by
  induction funds generalizing total with
  | nil => exact nofun
  | cons coin rest ih =>
      unfold nativeFunds
      split
      · simp
      · split
        · exact ih
        · simp

/-- A question's field is of its length or refused. -/
@[simp] theorem fieldOf_not_faults {n : Nat} {field : String}
    {bytes : List UInt8} : ¬ Faults (fieldOf n field bytes) := by
  unfold fieldOf
  split <;> simp

/-- A balance is the host's answer or the host's refusal. -/
@[simp] theorem Context.balance_not_faults {token : Token}
    {account : Address} : ¬ Faults (c.balance token account) := by
  unfold balance
  split <;> simp

namespace Bridge

/-- A bridge without settings is refused as not set up. -/
@[simp] theorem loadSettings_not_faults : ¬ Faults b.loadSettings := by
  unfold loadSettings
  split <;> simp

@[simp] theorem loadNextNonce_not_faults : ¬ Faults b.loadNextNonce := by
  unfold loadNextNonce
  split <;> simp

/-- A token is found enabled or refused. -/
@[simp] theorem loadToken_not_faults {id : String} :
    ¬ Faults (b.loadToken id) := by
  unfold loadToken
  split
  · split <;> simp
  · simp

@[simp] theorem loadCounterpart_not_faults {id : String} {chain : ChainId} :
    ¬ Faults (b.loadCounterpart id chain) := by
  unfold loadCounterpart
  split <;> simp

@[simp] theorem loadWithdrawal_not_faults {hash : Word} :
    ¬ Faults (b.loadWithdrawal hash) := by
  unfold loadWithdrawal
  split <;> simp

@[simp] theorem requireAdmin_not_faults {sender : Address} :
    ¬ Faults (b.requireAdmin sender) := by
  simp [requireAdmin]

@[simp] theorem requireIdle_not_faults : ¬ Faults b.requireIdle := by
  simp [requireIdle]

end Bridge

@[simp] theorem chainIdOf_not_faults {bytes : List UInt8} :
    ¬ Faults ((ChainId.ofBytes bytes).mapError .invalidChainId) :=
  Outcome.not_faults_mapError nofun

@[simp] theorem Bridge.registeredChain_not_faults {bytes : List UInt8} :
    ¬ Faults (b.registeredChain bytes) := by
  simp [registeredChain, requireChain]

/-- A payout that does not rescale is refused as such. -/
@[simp] theorem Withdrawal.payout_not_faults {w : Withdrawal} :
    ¬ Faults w.payout :=
  Outcome.not_faults_mapError nofun

/-- Schedules that are out of bounds are refused in words of their own. -/
theorem BridgeError.ofFeeFault_ne (fault : Fee.Fault) :
    ofFeeFault fault ≠ .arithmetic := by
  cases fault <;> exact nofun

@[simp] theorem checkFees_not_faults {fees : Fee.Schedule} :
    ¬ Faults (checkFees fees) :=
  Outcome.not_faults_mapError BridgeError.ofFeeFault_ne

@[simp] theorem checkWindow_not_faults {seconds : UInt64} :
    ¬ Faults (checkWindow seconds) := by
  simp [checkWindow]

/-- An address that may be missing is refused only where it is there. -/
@[simp] theorem checkOptional_not_faults {text : Option String} :
    ¬ Faults (checkOptional text) := by
  cases text <;> simp [checkOptional]

end

-- ================================================================= deposits

section

variable {b : Bridge} {c : Context} {token : Token}

/-- Under the cap the fee is an amount, and no more than it is taken from. -/
theorem RatesCapped.charge_not_faults (h : RatesCapped b) {s : Settings}
    (hs : b.settings = some s) {account : Address} {amount : Amount} :
    ¬ Faults (b.charge c s.fees account amount) := by
  unfold Bridge.charge
  rw [Outcome.faults_bind]
  rintro (hrate | ⟨⟨rate, source⟩, hrate, hfault⟩)
  · exact Outcome.faults_ofHost hrate
  · have hcapped := h.rateOf hs hrate
    obtain ⟨fee, hfee⟩ := Fee.exists_ofRate? hcapped amount
    have hle := Fee.ofRate?_le hcapped hfee
    obtain ⟨net, hnet⟩ : ∃ net, amount.sub? fee = some net :=
      ⟨amount.excess fee, Amount.sub?_eq_some_iff.mpr
        (by rw [Amount.toNat_excess]; omega)⟩
    simp [hfee, hnet, Outcome.ofOption] at hfault

/-- A locked total that grows too large is refused by the host's error. -/
@[simp] theorem Bridge.lockFor_not_faults {amount : Amount} :
    ¬ Faults (b.lockFor token amount) := by
  unfold lockFor increaseLocked
  split
  · split <;> simp
  · simp

/-- Noting the balances before a movement only asks for them. -/
@[simp] theorem Custody.note_not_faults {kind : MovementKind}
    {account : Address} {amount : Amount} :
    ¬ Faults (note c kind token account amount) := by
  simp [note]

/-- Taking custody notes two balances and compares nothing yet. -/
@[simp] theorem Custody.take_not_faults {kind : TokenKind} {owner : Address}
    {amount : Amount} : ¬ Faults (take kind c token owner amount) := by
  cases kind with
  | lockUnlock =>
      simp only [take]
      split <;> simp
  | mintBurn => simp [take, requireContract]

@[simp] theorem Custody.release_not_faults {kind : TokenKind}
    {recipient : Address} {amount : Amount} :
    ¬ Faults (release kind c token recipient amount) := by
  cases kind <;> simp [release, requireContract]

@[simp] theorem Bridge.dispatch_not_faults {custody : Custody} :
    ¬ Faults (b.dispatch custody) := by
  simp [dispatch]

/-- Taking custody of a deposit asks, notes and sends. -/
@[simp] theorem Bridge.takeCustody_not_faults {owner : Address}
    {amount : Amount} : ¬ Faults (b.takeCustody c token owner amount) := by
  unfold takeCustody
  simp only [Outcome.faults_bind, Custody.take_not_faults, false_or,
    not_exists, not_and]
  intro found _
  cases found <;> simp

/-- A deposit faults only where there is no next nonce. -/
theorem Bridge.nextNonce_of_deposit_faults (h : RatesCapped b)
    {depositor : Address} {amount : Amount}
    {destChain destAccount : List UInt8}
    (hfault :
      Faults (b.deposit c depositor token amount destChain destAccount)) :
    b.nextNonce = some maxWord64 := by
  have hcause : ∃ s, b.loadSettings = .ok s
      ∧ (Faults (b.charge c s.fees depositor amount)
        ∨ b.loadNextNonce = .ok maxWord64) := by
    simp only [deposit, Outcome.faults_bind, Outcome.faults_require,
      Outcome.faults_pure, loadSettings_not_faults, registeredChain_not_faults,
      loadCounterpart_not_faults, destAccountOf_not_faults,
      localAccount_not_faults, loadNextNonce_not_faults,
      lockFor_not_faults, takeCustody_not_faults, reduceCtorEq, and_false,
      false_or, or_false, exists_false, decide_eq_false_iff_not, ne_eq,
      Decidable.not_not, and_true] at hfault
    -- two links are left that calculate, the fee and the next nonce
    obtain ⟨s, hs, -, -, -, -, chain, -, -, -, -, -, -, -, hfault⟩ := hfault
    rcases hfault with hcharge | ⟨-, -, nonce, hnonce, rfl⟩
    · exact ⟨s, hs, .inl hcharge⟩
    · exact ⟨s, hs, .inr hnonce⟩
  obtain ⟨s, hs, hcharge | hnonce⟩ := hcause
  · exact absurd hcharge
      (h.charge_not_faults (loadSettings_eq_ok_iff.mp hs))
  · exact loadNextNonce_eq_ok_iff.mp hnonce

end

-- ================================================================== payouts

section

variable {b : Bridge} {c : Context} {funds : List Coin} {kind : TokenKind}

@[simp] theorem Bridge.payable_not_faults {hash : Word} :
    ¬ Faults (b.payable c hash) := by
  simp [payable]

/-- What the caller attached is the fee or more, or it is refused. -/
@[simp] theorem Withdrawal.callerFee_not_faults {w : Withdrawal}
    {attached : Amount} : ¬ Faults (w.callerFee attached) := by
  unfold callerFee
  split <;> simp

/-- A ledger that lacks the amount refuses by name. -/
@[simp] theorem Bridge.unlockFor_not_faults {token : Token}
    {amount : Amount} : ¬ Faults (b.unlockFor kind token amount) := by
  unfold unlockFor decreaseLocked
  split
  · split <;> simp
  · simp

@[simp] theorem Bridge.releaseCustody_not_faults {token : Token}
    {recipient : Address} {amount : Amount} :
    ¬ Faults (b.releaseCustody c token recipient amount) := by
  unfold releaseCustody
  split <;> simp

/-- A fee that is deducted was checked to be no more than the payout. -/
theorem Checked.sub?_deductedFee {tokens : Table String Token}
    {w : Withdrawal} (h : Checked tokens w) {payout : Amount}
    (hpayout : w.payout = .ok payout) : payout.sub? w.deductedFee ≠ none := by
  have hle : w.deductedFee.toNat ≤ payout.toNat := by
    cases hd : w.deductFee with
    | false =>
        rw [Withdrawal.deductedFee_of_beside hd]
        exact Nat.zero_le _
    | true =>
        obtain ⟨payout', hpayout', hfee⟩ := h.covered hd
        rw [hpayout] at hpayout'
        cases hpayout'
        rw [Withdrawal.deductedFee_of_deducts hd]
        exact hfee
  unfold Amount.sub?
  rw [if_pos hle]
  exact Option.some_ne_none _

/-- Of the two fees of a payout one is nothing. -/
theorem Withdrawal.add?_callerFee {w : Withdrawal} {attached caller : Amount}
    (h : w.callerFee attached = .ok caller) :
    w.deductedFee.add? caller ≠ none := by
  obtain ⟨rfl, hnone, -⟩ := callerFee_eq_ok h
  have hlt : w.deductedFee.toNat + caller.toNat < amountLimit := by
    have hfee := w.fee.toNat_lt
    have hcaller := caller.toNat_lt
    cases hd : w.deductFee with
    | true =>
        have := hnone (.inl hd)
        rw [deductedFee_of_deducts hd]
        omega
    | false =>
        rw [deductedFee_of_beside hd, Amount.toNat_zero]
        omega
  unfold Amount.add?
  intro hover
  have := Amount.ofNat?_eq_none_iff.mp hover
  omega

/-- No payout faults. -/
theorem Bridge.execute_not_faults
    (h : b.withdrawals.Every (Checked b.tokens)) {bytes : List UInt8} :
    ¬ Faults (b.execute c funds kind bytes) := by
  intro hfault
  have hcause : ∃ hash w payout, b.payable c hash = .ok w
      ∧ w.payout = .ok payout
      ∧ (payout.sub? w.deductedFee = none
        ∨ ∃ attached caller, w.callerFee attached = .ok caller
          ∧ w.deductedFee.add? caller = none) := by
    -- what is left of the rule are the subtraction of the fee and the sum that
    -- is reported
    simp only [execute, Outcome.faults_bind, Outcome.faults_require,
      Outcome.faults_pure, Outcome.faults_ofOption, loadSettings_not_faults,
      hashOf_not_faults, payable_not_faults, loadToken_not_faults,
      Withdrawal.payout_not_faults, nativeFunds_not_faults,
      Withdrawal.callerFee_not_faults, unlockFor_not_faults,
      releaseCustody_not_faults, reduceCtorEq, and_false, false_or, or_false,
      exists_false] at hfault
    obtain ⟨settings, -, -, -, hash, -, w, hw, token, -, -, -, payout,
      hpayout, hfault⟩ := hfault
    rcases hfault with hsub | ⟨-, -, attached, -, caller, hcaller, -, -, -, -,
      hadd⟩
    · exact ⟨hash, w, payout, hw, hpayout, .inl hsub⟩
    · exact ⟨hash, w, payout, hw, hpayout,
        .inr ⟨attached, caller, hcaller, hadd⟩⟩
  obtain ⟨hash, w, payout, hw, hpayout, hsub | ⟨attached, caller, hcaller,
    hadd⟩⟩ := hcause
  · have hchecked := h hash w (payable_eq_ok hw).1
    exact hchecked.sub?_deductedFee hpayout hsub
  · exact Withdrawal.add?_callerFee hcaller hadd

end

-- ================================================================= requests

/-- A request deposits something. -/
def Request.isDeposit : Request → Bool
  | .depositNative _ _ => true
  | .depositToken _ _ _ _ => true
  | .depositMintable _ _ _ _ => true
  | _ => false

/-- A request needs a nonce, or a place in a role, and the next one is the
largest word already. -/
inductive Bridge.NoRoom (b : Bridge) : Request → Prop
  /-- The next nonce has no successor. -/
  | deposit {r : Request} (deposits : r.isDeposit = true)
      (last : b.nextNonce = some maxWord64) : NoRoom b r
  /-- The next place has none. -/
  | grant {role : Role} {account : String}
      (last : (b.role role).next = maxWord64) :
      NoRoom b (.addRole role account)

section

variable {b : Bridge} {c : Context} {sender : Address} {funds : List Coin}

namespace Bridge

/-- A coin goes with an enabled native token that is locked, or is refused. -/
@[simp] theorem depositableCoin_not_faults {denom : String} :
    ¬ Faults (b.depositableCoin denom) := by
  simp [depositableCoin]

/-- A contract's token goes where its kind fits, or is refused. -/
@[simp] theorem depositableToken_not_faults {kind : TokenKind}
    {id : String} : ¬ Faults (b.depositableToken funds id kind) := by
  simp [depositableToken]

/-- A submission stores what it is given and calculates nothing. -/
@[simp] theorem submit_not_faults {s : Submission} :
    ¬ Faults (b.submit c funds s) := by
  simp [submit]

/-- A fee is compared with the payout; nothing is subtracted yet. -/
@[simp] theorem withFee_not_faults {w : Withdrawal} {fee : ApprovalFee} :
    ¬ Faults (b.withFee w fee) := by
  unfold withFee
  cases fee.deduct <;> simp

@[simp] theorem approve_not_faults {bytes : List UInt8}
    {fee : Option ApprovalFee} : ¬ Faults (b.approve c sender bytes fee) := by
  cases fee <;> simp [approve, requireOperator, requireUnclaimed]

/-- The end of a window is a saturating sum, so its check never faults. -/
@[simp] theorem requireOpenWindow_not_faults {w : Withdrawal} :
    ¬ Faults (b.requireOpenWindow c w) := by
  simp [requireOpenWindow]

@[simp] theorem cancel_not_faults {bytes : List UInt8} :
    ¬ Faults (b.cancel c sender bytes) := by
  simp [cancel, requireCanceler]

/-- Lifting a veto sets the marks and the time again. -/
@[simp] theorem uncancel_not_faults {bytes : List UInt8} :
    ¬ Faults (b.uncancel c sender bytes) := by
  simp [uncancel, requireOperator, requireUnclaimed]

/-- A place is given up without any count going down. -/
@[simp] theorem revokeRole_not_faults {role : Role} {account : Address} :
    ¬ Faults (b.revokeRole role account) := by
  simp [revokeRole]

@[simp] theorem setCustomRate_not_faults {account : Address}
    {rate : UInt64} : ¬ Faults (b.setCustomRate account rate) := by
  simp [setCustomRate,
    Outcome.not_faults_mapError BridgeError.ofFeeFault_ne]

end Bridge

/-- A role has no place left exactly where the next one is the largest
word. -/
theorem RoleSet.grant?_eq_none_iff {set : RoleSet} {account : Address} :
    set.grant? account = none ↔ set.next = maxWord64 := by
  unfold grant?
  split <;> simp [*]

/-- A grant faults only where the next place is the largest word. -/
theorem Bridge.next_of_grantRole_faults {role : Role} {account : Address}
    (hfault : Faults (b.grantRole role account)) :
    (b.role role).next = maxWord64 := by
  have hfull : (b.role role).grant? account = none := by
    simp only [grantRole, Outcome.faults_bind, Outcome.faults_require,
      Outcome.faults_pure, Outcome.faults_ofOption, reduceCtorEq, and_false,
      false_or, or_false, exists_false] at hfault
    obtain ⟨-, -, hfull⟩ := hfault
    exact hfull
  exact RoleSet.grant?_eq_none_iff.mp hfull

/-- A chain leaves the registry without a calculation. -/
@[simp] theorem Bridge.unregisterChain_not_faults {chain : List UInt8} :
    ¬ Faults (b.unregisterChain sender chain) := by
  simp only [unregisterChain, Outcome.faults_bind, requireAdmin_not_faults,
    chainIdOf_not_faults, false_or, not_exists, not_and]
  intro _ _ id _
  split <;> simp

/-- A token is switched without a calculation. -/
@[simp] theorem Bridge.setTokenEnabled_not_faults {id : String}
    {enabled : Bool} : ¬ Faults (b.setTokenEnabled sender id enabled) := by
  simp only [setTokenEnabled, Outcome.faults_bind, requireAdmin_not_faults,
    false_or, not_exists, not_and]
  intro _ _
  split <;> simp

/-- A counterpart is stored without a calculation. -/
@[simp] theorem Bridge.setCounterpart_not_faults {id : String}
    {destChain destToken : List UInt8} {decimals : UInt8} :
    ¬ Faults (b.setCounterpart sender id destChain destToken decimals) := by
  simp only [setCounterpart, Outcome.faults_bind, Outcome.faults_require,
    requireAdmin_not_faults, registeredChain_not_faults, reduceCtorEq,
    and_false, false_or, not_exists, not_and]
  intro _ _ _ _ _ _
  split <;> simp

/-- A message of the administrator faults only where a role has no place
left. -/
theorem Bridge.noRoom_of_administration {r : Request}
    (only : r.isAdministrative = true)
    (hfault : Faults (b.handle c sender funds r)) : b.NoRoom r := by
  cases r with
  | depositNative | depositToken | depositMintable => cases only
  | submit | approve | cancel | uncancel => cases only
  | executeUnlock | executeMint => cases only
  | addRole role account =>
      simp only [handle, addRole, Outcome.faults_bind, Outcome.faults_pure,
        requireAdmin_not_faults, checkAddress_not_faults, and_false,
        exists_false, or_false, false_or] at hfault
      obtain ⟨-, -, account', -, hgrant⟩ := hfault
      exact .grant (next_of_grantRole_faults hgrant)
  | setReviewWindow => simp [handle, setReviewWindow] at hfault
  | removeRole => simp [handle, removeRole] at hfault
  | registerChain => simp [handle, registerChain] at hfault
  | unregisterChain => simp [handle] at hfault
  | addToken id isNative =>
      cases isNative <;> simp [handle, addToken] at hfault
  | setTokenEnabled => simp [handle] at hfault
  | setCounterpart => simp [handle] at hfault
  | setFees => simp [handle, setFees] at hfault
  | setCustomRate => simp [handle, setAccountRate] at hfault
  | removeCustomRate => simp [handle, removeAccountRate] at hfault
  | pause => simp [handle, setPaused] at hfault
  | unpause => simp [handle, setPaused] at hfault

/-- A request faults only where there is no room for what it asks. -/
theorem Bridge.noRoom_of_take_faults (hrates : RatesCapped b)
    (hchecked : b.withdrawals.Every (Checked b.tokens)) {r : Request}
    (hfault : Faults (b.take c sender funds r)) : b.NoRoom r := by
  simp only [take, Outcome.faults_bind, requireIdle_not_faults, false_or]
    at hfault
  obtain ⟨-, -, hfault⟩ := hfault
  cases hr : r.isAdministrative with
  | true => exact noRoom_of_administration hr hfault
  | false =>
      cases r with
      | depositNative destChain destAccount =>
          simp only [handle, depositNative, Outcome.faults_bind,
            singleCoin_not_faults, depositableCoin_not_faults, false_or]
            at hfault
          obtain ⟨coin, -, token, -, hdeposit⟩ := hfault
          exact .deposit rfl (nextNonce_of_deposit_faults hrates hdeposit)
      | depositToken | depositMintable =>
          simp only [handle, depositContractToken, Outcome.faults_bind,
            depositableToken_not_faults, false_or] at hfault
          obtain ⟨token, -, hdeposit⟩ := hfault
          exact .deposit rfl (nextNonce_of_deposit_faults hrates hdeposit)
      | submit => exact absurd hfault submit_not_faults
      | approve => exact absurd hfault approve_not_faults
      | cancel => exact absurd hfault cancel_not_faults
      | uncancel => exact absurd hfault uncancel_not_faults
      | executeUnlock => exact absurd hfault (execute_not_faults hchecked)
      | executeMint => exact absurd hfault (execute_not_faults hchecked)
      | _ => cases hr

end

-- ==================================================== reports and questions

section

variable {b : Bridge} {c : Context}

/-- A change that differs from the amount is refused by its side. -/
@[simp] theorem checkChanges_not_faults {amount : Amount}
    {changes : List (MovementSide × Amount)} :
    ¬ Faults (checkChanges amount changes) := by
  induction changes with
  | nil => exact nofun
  | cons change rest ih =>
      unfold checkChanges
      split
      · exact ih
      · simp

/-- No report faults. -/
theorem Bridge.reply_not_faults {id : UInt64} {failure : Option String} :
    ¬ Faults (b.reply c id failure) := by
  unfold reply
  cases b.inFlight with
  | none => simp
  | some m =>
      cases failure with
      | some reason => cases hn : m.token.isNative <;> simp [hn]
      | none => simp [Movement.verify]

/-- A rate is chosen, and what is asked of a token is the host's to answer. -/
@[simp] theorem Bridge.rateOf_not_faults {fees : Fee.Schedule}
    {account : Address} : ¬ Faults (b.rateOf c fees account) :=
  Outcome.faults_ofHost

/-- The last nonce is looked up only where the next one is past 1. -/
@[simp] theorem Bridge.lastNonce_not_faults : ¬ Faults b.lastNonce := by
  simp [lastNonce]

/-- A nonce no deposit has is answered with nothing. -/
@[simp] theorem Bridge.depositWithNonce_not_faults {nonce : UInt64} :
    ¬ Faults (b.depositWithNonce nonce) := by
  unfold depositWithNonce
  split
  · simp
  · split <;> simp

@[simp] theorem Bridge.reportOf_not_faults {hash : Word} :
    ¬ Faults (b.reportOf c hash) := by
  unfold reportOf
  split <;> simp

/-- The fields of a hash question are of their lengths or refused. -/
@[simp] theorem HashQuestion.transfer_not_faults {q : HashQuestion} :
    ¬ Faults q.transfer := by
  simp [transfer]

/-- No question faults. -/
theorem Bridge.ask_not_faults (hrates : RatesCapped b) {q : Question} :
    ¬ Faults (b.ask c q) := by
  cases q with
  | quote depositor amount =>
      simp only [ask, Outcome.faults_bind, Outcome.faults_pure,
        checkAddress_not_faults, loadSettings_not_faults, false_or,
        or_false, and_false, exists_false, not_exists, not_and]
      intro _ _ s hs
      exact hrates.charge_not_faults (loadSettings_eq_ok_iff.mp hs)
  | _ => simp [ask]

end

-- =============================================================== the set-up

section

variable {b b' : Bridge}

/-- A grant moves the next place by one. -/
theorem RoleSet.next_of_grant? {set set' : RoleSet} {account : Address}
    (h : set.grant? account = some set') :
    set'.next.toNat = set.next.toNat + 1 := by
  unfold grant? at h
  split at h
  · cases h
  next hlast =>
    cases h
    have hne : set.next.toNat ≠ maxWord64.toNat := fun he =>
      hlast (UInt64.toNat_inj.mp he)
    have hlt := set.next.toNat_lt
    show (set.next + 1).toNat = _
    rw [UInt64.toNat_add, UInt64.toNat_one]
    change _ ≠ 0xffffffffffffffff at hne
    omega

/-- The set that is put in a role is the role's set. -/
theorem Bridge.role_setRole (role : Role) (set : RoleSet) :
    (b.setRole role set).role role = set := by
  cases role <;> rfl

/-- Putting a set in one role leaves the other. -/
theorem Bridge.role_setRole_ne {role other : Role} (hne : role ≠ other)
    (set : RoleSet) : (b.setRole role set).role other = b.role other := by
  cases role <;> cases other <;> first | rfl | exact absurd rfl hne

/-- Granting a role to accounts faults only where these are more than there
are places. -/
theorem Bridge.places_of_grantAll_faults {role : Role} :
    ∀ {texts : List String} {b : Bridge}, Faults (b.grantAll role texts) →
      word64Limit ≤ (b.role role).next.toNat + texts.length := by
  intro texts
  induction texts with
  | nil =>
      intro b hfault
      cases hfault
  | cons text rest ih =>
      intro b hfault
      simp only [grantAll, Outcome.faults_bind, checkAddress_not_faults,
        false_or] at hfault
      obtain ⟨account, -, hfault⟩ := hfault
      rw [List.length_cons]
      -- each grant takes one place, so the next place and the accounts that
      -- are left add up to the same
      rcases hfault with hgrant | ⟨b₁, hgrant, hrest⟩
      · have hlast := next_of_grantRole_faults hgrant
        rw [hlast]
        show word64Limit ≤ 0xffffffffffffffff + (rest.length + 1)
        simp only [word64Limit]
        omega
      · obtain ⟨-, set, hset, rfl⟩ := grantRole_eq_ok hgrant
        have hnext := RoleSet.next_of_grant? hset
        have := ih hrest
        rw [role_setRole, hnext] at this
        omega

/-- Granting one role leaves the other as it was. -/
theorem Bridge.role_of_grantAll {role other : Role} (hne : role ≠ other) :
    ∀ {texts : List String} {b : Bridge}, b.grantAll role texts = .ok b' →
      b'.role other = b.role other := by
  intro texts
  induction texts with
  | nil =>
      intro b h
      cases h
      rfl
  | cons text rest ih =>
      intro b h
      simp only [grantAll, Outcome.bind_eq_ok_iff] at h
      obtain ⟨account, -, b₁, hgrant, hrest⟩ := h
      obtain ⟨-, set, -, rfl⟩ := grantRole_eq_ok hgrant
      rw [ih hrest, role_setRole_ne hne]

/-- The set-up faults only where it names more operators or cancelers than
there are places. -/
theorem Bridge.places_of_setUp_faults {setup : Setup}
    (hfault : Faults (blank.setUp setup)) :
    word64Limit ≤ setup.operators.length
      ∨ word64Limit ≤ setup.cancelers.length := by
  have hcause : ∃ settings,
      Faults (grantAll
        { blank with
          version := some Version.current, settings, nextNonce := some 1 }
        .operator setup.operators)
      ∨ ∃ b, grantAll
          { blank with
            version := some Version.current, settings, nextNonce := some 1 }
          .operator setup.operators = .ok b
        ∧ Faults (b.grantAll .canceler setup.cancelers) := by
    simp only [setUp, Outcome.faults_bind, Outcome.faults_require,
      Outcome.faults_pure, checkAddress_not_faults, chainIdOf_not_faults,
      checkWindow_not_faults, checkFees_not_faults, reduceCtorEq, and_false,
      exists_false, false_or, or_false] at hfault
    obtain ⟨admin, -, recipient, -, chain, -, -, -, -, -, -, -, hgrant⟩ :=
      hfault
    exact ⟨_, hgrant⟩
  obtain ⟨settings, hoperators | ⟨b, hgranted, hcancelers⟩⟩ := hcause
  · have h := places_of_grantAll_faults hoperators
    change word64Limit ≤ 0 + _ at h
    exact .inl (by omega)
  · have h := places_of_grantAll_faults hcancelers
    have hkept := role_of_grantAll (by decide : Role.operator ≠ .canceler)
      hgranted
    rw [hkept] at h
    change word64Limit ≤ 0 + _ at h
    exact .inr (by omega)

end

-- =============================================================== every step

/-- A step of the bridge faults only where there is no room for what it
asks. -/
theorem Session.noRoom_of_step_faults {s : Session} {x : Session.Step}
    (hrates : RatesCapped s.bridge)
    (hchecked : s.bridge.withdrawals.Every (Checked s.bridge.tokens))
    (hx : ∀ setup, x ≠ .setUp setup) (unclocked : x.isClock = false)
    (hfault : Faults (s.step x).2) :
    ∃ sender funds request, x = .take sender funds request
      ∧ s.bridge.NoRoom request := by
  cases x with
  | setUp setup => exact absurd rfl (hx setup)
  | setTime | advance => cases unclocked
  | setCoins | openContract | setTokens | breakContract | garbleContract =>
      cases hfault
  | migrate => cases hfault
  | ask q =>
      have hask := Outcome.faults_map.mp hfault
      exact absurd hask (Bridge.ask_not_faults hrates)
  | reply id failure =>
      have hreply := Outcome.faults_map.mp hfault
      split at hreply
      · cases hreply
      next e herror =>
        cases Outcome.faults_error.mp hreply
        exact absurd herror Bridge.reply_not_faults
  | take sender funds request =>
      have htake := Outcome.faults_map.mp hfault
      split at htake
      next e herror =>
        cases Outcome.faults_error.mp htake
        exact ⟨sender, funds, request, rfl,
          Bridge.noRoom_of_take_faults hrates hchecked herror⟩
      · cases htake

/-- A deposit of coins. -/
def Sample.depositing : Session.Step :=
  .take user [⟨"uluna", amount⟩]
    (.depositNative hereChain.toList account.toList)

/-- A set-up faults only at the grant of a role whose places are all taken,
so only for a list of as many accounts as there are words. After it, in
every run and whatever the amounts, decimals, fees and rates, a step of the
bridge faults only as a deposit when the next nonce is the largest word, or
as the grant of a role when its next place is. -/
theorem Run.faults_only_without_room :
    (∀ setup, Bridge.blank.setUp setup = .error .arithmetic →
        word64Limit ≤ setup.operators.length
          ∨ word64Limit ≤ setup.cancelers.length)
      ∧ ∀ (r : Run) (x : Session.Step), (∀ setup, x ≠ .setUp setup) →
        x.isClock = false → (r.last.step x).2 = .error .arithmetic →
        ∃ sender funds request, x = .take sender funds request
          ∧ r.last.bridge.NoRoom request := by
  refine ⟨fun setup => Bridge.places_of_setUp_faults, ?_⟩
  intro r x hx unclocked hfault
  have hrates := (ratesCapped_invariant.throughout r).now
  have hchecked := (checked_invariant.throughout r).now.2
  exact Session.noRoom_of_step_faults hrates hchecked hx unclocked hfault

/-- There is room for one account in each role, and for the first deposit. -/
theorem Run.room_for_first_deposit :
    Bridge.blank.setUp Sample.readyThere.opening.setup ≠ .error .arithmetic
      ∧ (Sample.readyThere.last.step Sample.depositing).2
        ≠ .error .arithmetic := by
  refine ⟨fun hfault => ?_, fun hfault => ?_⟩
  · rcases Run.faults_only_without_room.1 _ hfault with h | h
    · exact absurd h (by decide +kernel)
    · exact absurd h (by decide +kernel)
  · have hdeposit : ∀ setup, Sample.depositing ≠ .setUp setup := by
      intro setup h
      cases h
    have hnonce : Sample.readyThere.last.bridge.nextNonce = some 1 := by
      decide +kernel
    obtain ⟨sender, funds, request, heq, hroom⟩ :=
      Run.faults_only_without_room.2 _ _ hdeposit rfl hfault
    cases heq
    cases hroom with
    | deposit deposits last =>
        rw [hnonce] at last
        cases last

end TokenBridge
