/-
Every rate stays under the cap, so every fee stays under a hundredth.

Three rules write rates: the set-up, the change of the fees and the rate of
one account. Each checks what it writes against the cap, and nothing else
writes there (`RatesCapped`). Which of the rates an account owes is settled
anew at every deposit (`Bridge.RateOwed`), but it is always one of these. At
such a rate the fee is an amount, at most a hundredth of what it is taken
from, so the rest is an amount too, and more than nothing.

What is kept of an account's own rate carries a flag, and a rate whose flag
is down would be passed over for the schedule's. None is ever kept: the rule
that writes the rate puts the flag up (`Fee.CustomRate.Accepted`), so a rate
that is kept is the one that is paid.
-/
import TokenBridge.Proofs.Decisions

namespace TokenBridge

open Outcome

-- =============================================================== the checks

namespace Fee

/-- The check lets a rate pass up to the cap itself. -/
theorem checkRate_eq_ok_iff {rate : UInt64} {u : Unit} :
    checkRate rate = .ok u ↔ rate ≤ maxRate := by
  unfold checkRate
  rw [← UInt64.not_lt]
  split
  next h => simp [h]
  next h => simp [h]

/-- What is accepted as a schedule. -/
theorem Schedule.check_eq_ok {s : Schedule} {u : Unit}
    (h : s.check = .ok u) :
    s.standard ≤ maxRate ∧ s.discounted ≤ maxRate ∧ s.recipient ≠ "" := by
  unfold Schedule.check at h
  cases hstandard : checkRate s.standard with
  | error fault => rw [hstandard] at h; cases h
  | ok u₁ =>
      cases hdiscounted : checkRate s.discounted with
      | error fault => rw [hstandard, hdiscounted] at h; cases h
      | ok u₂ =>
          refine ⟨checkRate_eq_ok_iff.mp hstandard,
            checkRate_eq_ok_iff.mp hdiscounted, fun hempty => ?_⟩
          rw [hstandard, hdiscounted, hempty] at h
          cases h

-- ================================================================= the fees

/-- No product of an amount and a rate needs more than 192 bits. -/
theorem mul_rate_lt (amount : Amount) (rate : UInt64) :
    amount.toNat * rate.toNat < amountLimit * word64Limit :=
  Nat.mul_lt_mul_of_lt_of_le amount.toNat_lt (Nat.le_of_lt rate.toNat_lt)
    (by decide)

/-- So none is cut off in 256 bits. -/
theorem toNat_wideProduct (amount : Amount) (rate : UInt64) :
    (wideProduct amount rate).toNat = amount.toNat * rate.toNat := by
  have hamount := amount.toNat_lt
  have hrate := rate.toNat_lt
  have hproduct := mul_rate_lt amount rate
  simp only [amountLimit, word64Limit] at hamount hproduct
  rw [wideProduct, BitVec.toNat_mul, BitVec.toNat_ofNat, BitVec.toNat_ofNat]
  rw [Nat.mod_eq_of_lt (a := amount.toNat) (by omega),
    Nat.mod_eq_of_lt (a := rate.toNat) (by omega),
    Nat.mod_eq_of_lt (by omega)]

/-- A fee is the quotient of natural numbers wherever that is an amount; the
wide word never gets in the way. -/
theorem ofRate?_eq_ofNat? (amount : Amount) (rate : UInt64) :
    ofRate? amount rate
      = Amount.ofNat? (amount.toNat * rate.toNat / wholeRate) := by
  rw [ofRate?, BitVec.toNat_udiv, toNat_wideProduct]
  rfl

/-- The fee at a rate is so many hundredths of a hundredth, rounded down. -/
theorem ofRate?_eq_some_iff {amount fee : Amount} {rate : UInt64} :
    ofRate? amount rate = some fee ↔
      amount.toNat * rate.toNat / wholeRate = fee.toNat := by
  rw [ofRate?_eq_ofNat?]
  exact Amount.ofNat?_eq_some_iff

/-- Under the cap a fee is at most a hundredth. -/
theorem div_wholeRate_le {rate : UInt64} (capped : rate ≤ maxRate)
    (amount : Nat) : amount * rate.toNat / wholeRate * 100 ≤ amount := by
  have hrate : rate.toNat ≤ 100 := UInt64.le_iff_toNat_le.mp capped
  have hmul : amount * rate.toNat ≤ amount * 100 :=
    Nat.mul_le_mul_left amount hrate
  have hfloor : amount * rate.toNat / wholeRate * 10000 ≤ amount * rate.toNat :=
    Nat.div_mul_le_self _ _
  omega

/-- So it is an amount. -/
theorem exists_ofRate? {rate : UInt64} (capped : rate ≤ maxRate)
    (amount : Amount) : ∃ fee, ofRate? amount rate = some fee := by
  have hle := div_wholeRate_le capped amount.toNat
  have hlt : amount.toNat * rate.toNat / wholeRate < amountLimit := by
    have := amount.toNat_lt
    omega
  exact ⟨⟨_, hlt⟩, ofRate?_eq_some_iff.mpr rfl⟩

/-- A fee at a rate under the cap is at most a hundredth of its amount. -/
theorem ofRate?_le {amount fee : Amount} {rate : UInt64}
    (capped : rate ≤ maxRate) (h : ofRate? amount rate = some fee) :
    fee.toNat * 100 ≤ amount.toNat := by
  rw [← ofRate?_eq_some_iff.mp h]
  exact div_wholeRate_le capped amount.toNat

end Fee

/-- What the bridge takes over as its fees has both rates under the cap, and
somebody to receive them. -/
theorem checkFees_eq_ok {fees : Fee.Schedule} {u : Unit}
    (h : checkFees fees = .ok u) :
    fees.standard ≤ Fee.maxRate ∧ fees.discounted ≤ Fee.maxRate
      ∧ fees.recipient ≠ "" :=
  Fee.Schedule.check_eq_ok (mapError_eq_ok_iff.mp h)

-- ================================================================== the rates

section

variable {b : Bridge} {c : Context} {fees : Fee.Schedule} {account : Address}

/-- What the bridge lets be kept of an account's own rate: a rate under the
cap, with the flag up. -/
structure Fee.CustomRate.Accepted (own : Fee.CustomRate) : Prop where
  capped : own.rate ≤ Fee.maxRate
  set : own.isSet = true

/-- An account for which nothing is kept has no rate that is set. -/
theorem Bridge.customRate_of_absent
    (h : b.customRates.get? account = none) :
    b.customRate account = .unset := by
  rw [customRate, h, Option.getD_none]

/-- A rate that is kept with its flag up is the one its account pays,
whatever the schedule says and the discount token answers. -/
theorem Bridge.rateOf_of_set {own : Fee.CustomRate}
    (h : b.customRates.get? account = some own) (set : own.isSet = true)
    (c : Context) (fees : Fee.Schedule) :
    b.rateOf c fees account = .ok (own.rate, .custom) := by
  have hread : b.customRate account = own := by
    rw [customRate, h, Option.getD_some]
  unfold rateOf Fee.Schedule.rateFor
  rw [hread, if_pos set]
  rfl

/-- A discount token is named, and it reports a balance of the account that
reaches the threshold. -/
def Fee.Schedule.EarnedBy (fees : Fee.Schedule) (bank : Bank)
    (account : Address) : Prop :=
  ∃ token held, fees.discountToken = some token
    ∧ bank.tokenBalance token account = .ok held ∧ fees.threshold ≤ held

/-- Which rate an account owes: its own if one is kept, else the discounted
one if it has earned that, else the standard one. -/
structure Bridge.RateOwed (b : Bridge) (bank : Bank) (fees : Fee.Schedule)
    (account : Address) (rate : UInt64) (source : Fee.Source) : Prop where
  custom : ∀ own, b.customRates.get? account = some own →
    rate = own.rate ∧ source = .custom
  discounted : b.customRates.get? account = none →
    fees.EarnedBy bank account → rate = fees.discounted ∧ source = .discounted
  standard : b.customRates.get? account = none →
    ¬fees.EarnedBy bank account → rate = fees.standard ∧ source = .standard

/-- The rate that is answered is the one that is owed, where every rate that
is kept has its flag up. -/
theorem Bridge.rateOwed_of_rateOf {rate : UInt64} {source : Fee.Source}
    (accepted : b.customRates.Every Fee.CustomRate.Accepted)
    (h : b.rateOf c fees account = .ok (rate, source)) :
    b.RateOwed c.bank fees account rate source := by
  cases hcustom : b.customRates.get? account with
  -- the flag is up, so the schedule is not even looked at
  | some own =>
      rw [rateOf_of_set hcustom (accepted account own hcustom).set] at h
      cases h
      refine ⟨fun own' hown => ?_, fun hnone => ?_, fun hnone => ?_⟩
      · cases hcustom.symm.trans hown
        exact ⟨rfl, rfl⟩
      · cases hcustom.symm.trans hnone
      · cases hcustom.symm.trans hnone
  -- nothing is kept, so the flag that is read is down
  | none =>
      have hread := mapError_eq_ok_iff.mp h
      rw [customRate_of_absent hcustom] at hread
      have hown : ∀ own, b.customRates.get? account = some own →
          rate = own.rate ∧ source = .custom := by
        intro own hown
        cases hcustom.symm.trans hown
      cases hnamed : fees.discountToken with
      | none =>
          have hnot : ¬fees.EarnedBy c.bank account := by
            intro ⟨token, _, htoken, _⟩
            cases hnamed.symm.trans htoken
          simp only [Fee.Schedule.rateFor, Fee.CustomRate.unset, hnamed,
            Bool.false_eq_true, if_false] at hread
          cases hread
          exact ⟨hown, fun _ hearned => absurd hearned hnot,
            fun _ _ => ⟨rfl, rfl⟩⟩
      | some token =>
          simp only [Fee.Schedule.rateFor, Fee.CustomRate.unset, hnamed,
            Bool.false_eq_true, if_false] at hread
          cases hbalance : c.bank.tokenBalance token account with
          -- a balance that is not answered refuses the deposit
          | error e =>
              rw [hbalance] at hread
              cases hread
          | ok held =>
              simp only [hbalance] at hread
              by_cases hheld : fees.threshold ≤ held
              · rw [if_pos hheld] at hread
                cases hread
                exact ⟨hown, fun _ _ => ⟨rfl, rfl⟩, fun _ hnot =>
                  absurd ⟨token, held, hnamed, hbalance, hheld⟩ hnot⟩
              · have hnot : ¬fees.EarnedBy c.bank account := by
                  intro ⟨token', held', htoken, hbalance', hreached⟩
                  cases hnamed.symm.trans htoken
                  cases hbalance.symm.trans hbalance'
                  exact hheld hreached
                rw [if_neg hheld] at hread
                cases hread
                exact ⟨hown, fun _ hearned => absurd hearned hnot,
                  fun _ _ => ⟨rfl, rfl⟩⟩

end

-- ============================================================ the invariant

/-- Every rate of a bridge is under the cap, and every one that is kept for
an account is set. -/
structure RatesCapped (b : Bridge) : Prop where
  standard : ∀ s, b.settings = some s → s.fees.standard ≤ Fee.maxRate
  discounted : ∀ s, b.settings = some s → s.fees.discounted ≤ Fee.maxRate
  custom : b.customRates.Every Fee.CustomRate.Accepted

namespace RatesCapped

variable {b b' : Bridge}

/-- Where the rates stand in their places as before. -/
theorem same (h : RatesCapped b) (hsettings : b'.settings = b.settings)
    (hcustom : b'.customRates = b.customRates) : RatesCapped b' := by
  refine ⟨?_, ?_, ?_⟩
  · rw [hsettings]
    exact h.standard
  · rw [hsettings]
    exact h.discounted
  · rw [hcustom]
    exact h.custom

/-- New settings with a schedule under the cap. -/
theorem settle (h : RatesCapped b) {s : Settings}
    (hrates : s.fees.standard ≤ Fee.maxRate ∧ s.fees.discounted ≤ Fee.maxRate) :
    RatesCapped { b with settings := some s } := by
  refine ⟨fun s' hs' => ?_, fun s' hs' => ?_, h.custom⟩
  · cases hs'
    exact hrates.1
  · cases hs'
    exact hrates.2

/-- A bridge that has been set up has checked its schedule. -/
theorem opened (o : Opening) : RatesCapped o.bridge := by
  obtain ⟨settings, hsettings, -, hfees⟩ := Bridge.settings_of_setUp o.success
  obtain ⟨hstandard, hdiscounted, -⟩ := checkFees_eq_ok hfees
  obtain ⟨_, -, hb, -⟩ := Bridge.setUp_eq_ok o.success
  refine ⟨?_, ?_, ?_⟩
  · intro s hs
    rw [hsettings] at hs
    cases hs
    exact hstandard
  · intro s hs
    rw [hsettings] at hs
    cases hs
    exact hdiscounted
  · rw [hb]
    exact Table.every_empty _

/-- Each message of the administrator checks the rates it writes. -/
theorem decided (h : RatesCapped b) {s : Settings} {r : Request}
    (hs : b.settings = some s) (hd : Decided b s r b') : RatesCapped b' := by
  have hkept : s.fees.standard ≤ Fee.maxRate
      ∧ s.fees.discounted ≤ Fee.maxRate :=
    ⟨h.standard s hs, h.discounted s hs⟩
  cases hd with
  | window => exact h.settle hkept
  | paused => exact h.settle hkept
  | resumed => exact h.settle hkept
  | feesSet accepted =>
      obtain ⟨hstandard, hdiscounted, -⟩ := checkFees_eq_ok accepted
      exact h.settle ⟨hstandard, hdiscounted⟩
  | rateSet checked accepted =>
      exact ⟨h.standard, h.discounted,
        h.custom.insert _ ⟨Fee.checkRate_eq_ok_iff.mp accepted, rfl⟩⟩
  -- what is left was there before the removal
  | @rateRemoved text account checked =>
      refine ⟨h.standard, h.discounted, fun account' own hown => ?_⟩
      have hown' : (b.customRates.erase account).get? account' = some own :=
        hown
      rw [Table.get?_erase] at hown'
      split at hown'
      · cases hown'
      · exact h.custom account' own hown'
  | @granted role text account set checked absent room =>
      cases role with
      | operator => exact h.same rfl rfl
      | canceler => exact h.same rfl rfl
  | @revoked role text account checked present =>
      cases role with
      | operator => exact h.same rfl rfl
      | canceler => exact h.same rfl rfl
  | chainAdded | chainRemoved | tokenAdded | tokenSwitched
  | counterpartSet => exact h.same rfl rfl

end RatesCapped

/-- At every moment every rate is under the cap and every kept one is set.
Messages of the administrator check what they write; no other request writes
there at all. -/
theorem ratesCapped_invariant : Invariant fun _ => RatesCapped := by
  refine ⟨.opened, ?kept, fun _ _ _ h => h, fun h => h.same rfl rfl⟩
  intro past t h
  cases hr : t.request.isAdministrative with
  | true =>
      obtain ⟨s, ⟨hs, -⟩, hd⟩ := t.decided hr
      exact h.decided hs hd
  | false =>
      have handled := t.handled
      generalize t.request = r at handled hr
      cases handled with
      | deposit brought told => rw [told.after]; exact h.same rfl rfl
      | submit told => rw [told.after]; exact h.same rfl rfl
      | approve told => rw [told.after]; exact h.same rfl rfl
      | cancel told => rw [told.after]; exact h.same rfl rfl
      | uncancel told => rw [told.after]; exact h.same rfl rfl
      | execute asks told => rw [told.after]; exact h.same rfl rfl
      | administer only told =>
          rw [only] at hr
          cases hr

-- =============================================================== the charge

namespace RatesCapped

variable {b : Bridge} {c : Context} {s : Settings} {account : Address}

/-- Whichever rate an account pays, it is under the cap. -/
theorem rateOf (h : RatesCapped b) (hs : b.settings = some s) {rate : UInt64}
    {source : Fee.Source}
    (hrate : b.rateOf c s.fees account = .ok (rate, source)) :
    rate ≤ Fee.maxRate := by
  have howed := Bridge.rateOwed_of_rateOf h.custom hrate
  cases hcustom : b.customRates.get? account with
  | some own =>
      rw [(howed.custom own hcustom).1]
      exact (h.custom account own hcustom).capped
  | none =>
      by_cases hearned : s.fees.EarnedBy c.bank account
      · rw [(howed.discounted hcustom hearned).1]
        exact h.discounted s hs
      · rw [(howed.standard hcustom hearned).1]
        exact h.standard s hs

/-- A charge leaves more than nothing of an amount. -/
theorem net_pos (h : RatesCapped b) (hs : b.settings = some s)
    {amount : Amount} {charge : Charge}
    (hcharge : b.charge c s.fees account amount = .ok charge)
    (hamount : amount.toNat ≠ 0) : 0 < charge.net.toNat := by
  obtain ⟨hrate, hfee, hsum⟩ := Bridge.charge_eq_ok hcharge
  have hle := Fee.ofRate?_le (h.rateOf hs hrate) hfee
  omega

end RatesCapped

end TokenBridge
