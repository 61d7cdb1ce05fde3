/-
One live approval, one payout, for each source chain and nonce.

The claim table and the marks of the withdrawals are written by different
rules at different times. What ties them together is `Claimed`: a claim is
held exactly if a withdrawal that is approved and not vetoed stands behind
it, and no two such withdrawals have one claim. The rules move a withdrawal
in three ways only: it comes to life and takes its claim (`Claimed.occupy`),
it is vetoed and gives the claim up (`Claimed.vacate`), or it is written
without any change of either (`Claimed.keep`). A payout needs a live
withdrawal and leaves it live, so the claim is never free again.
-/
import TokenBridge.Proofs.History

namespace TokenBridge

-- ================================================================ the marks

/-- Approved, and not vetoed. -/
def Marks.live (m : Marks) : Bool := m.approved && !m.cancelled

/-- A record is live when it is approved and no veto stands against it. -/
theorem Marks.live_iff {m : Marks} :
    m.live = true ↔ m.approved = true ∧ m.cancelled = false := by
  unfold live
  rw [Bool.and_eq_true, Bool.not_eq_true']

/-- The marks are set in their order: only what is approved is vetoed, and
only what is live is paid. -/
structure Marks.Ordered (m : Marks) : Prop where
  approved_of_cancelled : m.cancelled = true → m.approved = true
  live_of_executed : m.executed = true → m.live = true

/-- The marks of every withdrawal are set in their order. -/
def MarksOrdered (withdrawals : Table Word Withdrawal) : Prop :=
  withdrawals.Every fun w => w.marks.Ordered

/-- Every rule sets the marks in their order. -/
theorem marksOrdered_invariant :
    Invariant fun _ b => MarksOrdered b.withdrawals := by
  refine .ofBridge ?opened ?kept (fun h => h)
  case opened =>
    intro o
    obtain ⟨settings, -, hb, -⟩ := Bridge.setUp_eq_ok o.success
    rw [hb]
    exact Table.every_empty _
  case kept =>
    intro b c sender funds receipt b' r idle handled h
    cases handled with
    | deposit brought told => rw [told.after]; exact h
    | submit told =>
        rw [told.after]
        apply h.insert
        rw [told.record_eq]
        exact ⟨nofun, nofun⟩
    -- an approval sets its own mark, and only an unpaid record is approved
    | approve told =>
        rw [told.after]
        refine h.insert _ ⟨fun _ => rfl, fun hexec => ?_⟩
        exact absurd (told.not_executed.symm.trans hexec) Bool.false_ne_true
    | cancel told =>
        rw [told.after]
        -- a veto is against an approved record, and only against an unpaid one
        refine h.insert _ ⟨fun _ => told.approved, fun hexec => ?_⟩
        exact absurd (told.not_executed.symm.trans hexec) Bool.false_ne_true
    | uncancel told =>
        rw [told.after]
        -- lifting the veto leaves the approval, so only payment needs saying
        refine h.insert _ ⟨nofun, fun hexec => ?_⟩
        exact absurd (told.not_executed.symm.trans hexec) Bool.false_ne_true
    | execute asks told =>
        rw [told.after]
        exact h.insert _ ⟨fun _ => told.approved,
          fun _ => Marks.live_iff.mpr ⟨told.approved, told.not_cancelled⟩⟩
    | administer only told => rw [told.frame]; exact h

-- =============================================================== the claims

/-- A live withdrawal stands under a hash, with a source chain and nonce. -/
def HoldsAt (withdrawals : Table Word Withdrawal) (hash : Word)
    (pair : ChainId × UInt64) : Prop :=
  ∃ w, withdrawals.get? hash = some w ∧ w.marks.live = true
    ∧ w.claim = pair

/-- The claim table says which pairs a live withdrawal stands behind, and
there is one for each. -/
structure Claimed (withdrawals : Table Word Withdrawal)
    (claims : Table (ChainId × UInt64) Unit) : Prop where
  /-- A pair is claimed exactly when some live record holds it. -/
  held : ∀ pair, claims.contains pair = true ↔
    ∃ hash, HoldsAt withdrawals hash pair
  /-- No pair is held by two. -/
  sole : ∀ {pair hash₁ hash₂}, HoldsAt withdrawals hash₁ pair →
    HoldsAt withdrawals hash₂ pair → hash₁ = hash₂

section

variable {withdrawals : Table Word Withdrawal}
  {claims : Table (ChainId × UInt64) Unit} {hash hash' : Word}
  {w w' : Withdrawal} {pair : ChainId × UInt64}

/-- Writing a withdrawal matters under its own hash only. -/
theorem holdsAt_insert :
    HoldsAt (withdrawals.insert hash w') hash' pair ↔
      (hash = hash' ∧ w'.marks.live = true ∧ w'.claim = pair)
        ∨ (hash ≠ hash' ∧ HoldsAt withdrawals hash' pair) := by
  unfold HoldsAt
  rw [Table.get?_insert]
  by_cases hk : hash = hash'
  · rw [if_pos hk]
    constructor
    · rintro ⟨w, hw, hlive, hclaim⟩
      cases hw
      exact .inl ⟨hk, hlive, hclaim⟩
    · rintro (⟨-, hlive, hclaim⟩ | ⟨hne, -⟩)
      · exact ⟨w', rfl, hlive, hclaim⟩
      · exact absurd hk hne
  · rw [if_neg hk]
    constructor
    · exact fun h => .inr ⟨hk, h⟩
    · rintro (⟨he, -, -⟩ | ⟨-, h⟩)
      · exact absurd he hk
      · exact h

/-- What is under a hash holds its own claim, if it is live. -/
theorem holdsAt_of_get? (hw : withdrawals.get? hash = some w) :
    HoldsAt withdrawals hash pair ↔
      w.marks.live = true ∧ w.claim = pair := by
  unfold HoldsAt
  rw [hw]
  constructor
  · rintro ⟨w₁, hw₁, hlive, hclaim⟩
    cases hw₁
    exact ⟨hlive, hclaim⟩
  · exact fun h => ⟨w, rfl, h.1, h.2⟩

/-- Nothing is held at a hash that has no record. -/
theorem not_holdsAt_of_absent (hw : withdrawals.get? hash = none) :
    ¬ HoldsAt withdrawals hash pair := by
  rintro ⟨w, hw', -, -⟩
  rw [hw] at hw'
  cases hw'

namespace Claimed

/-- A withdrawal that comes to life takes a claim that was free. -/
theorem occupy (h : Claimed withdrawals claims)
    (hw : withdrawals.get? hash = some w) (hdead : w.marks.live = false)
    (hlive : w'.marks.live = true)
    (free : claims.contains w'.claim = false) :
    Claimed (withdrawals.insert hash w') (claims.insert w'.claim ()) := by
  -- no record holds the pair that is about to be occupied
  have hnone : ∀ hash', ¬ HoldsAt withdrawals hash' w'.claim := by
    intro hash' hholds
    have := (h.held w'.claim).mpr ⟨hash', hholds⟩
    rw [free] at this
    cases this
  -- the record written over was dead, so whatever holds is another's
  have hother : ∀ {hash' pair}, HoldsAt withdrawals hash' pair →
      hash ≠ hash' := by
    rintro hash' pair hholds rfl
    have := ((holdsAt_of_get? hw).mp hholds).1
    rw [hdead] at this
    cases this
  refine ⟨fun pair => ?_, fun {pair hash₁ hash₂} h₁ h₂ => ?_⟩
  · rw [Table.contains_insert, Bool.or_eq_true, decide_eq_true_eq, h.held]
    constructor
    · rintro (hclaim | ⟨hash', hholds⟩)
      · exact ⟨hash, holdsAt_insert.mpr (.inl ⟨rfl, hlive, hclaim⟩)⟩
      · exact ⟨hash', holdsAt_insert.mpr (.inr ⟨hother hholds, hholds⟩)⟩
    · rintro ⟨hash', hholds⟩
      rcases holdsAt_insert.mp hholds with ⟨-, -, hclaim⟩ | ⟨-, hholds⟩
      · exact .inl hclaim
      · exact .inr ⟨hash', hholds⟩
  -- two holders: both new, one new and one old, or both old
  · rcases holdsAt_insert.mp h₁ with ⟨he₁, -, hclaim₁⟩ | ⟨-, hholds₁⟩
    · rcases holdsAt_insert.mp h₂ with ⟨he₂, -, -⟩ | ⟨-, hholds₂⟩
      · exact he₁.symm.trans he₂
      · rw [← hclaim₁] at hholds₂
        exact absurd hholds₂ (hnone hash₂)
    · rcases holdsAt_insert.mp h₂ with ⟨-, -, hclaim₂⟩ | ⟨-, hholds₂⟩
      · rw [← hclaim₂] at hholds₁
        exact absurd hholds₁ (hnone hash₁)
      · exact h.sole hholds₁ hholds₂

/-- A live withdrawal that is vetoed gives its claim up, and nobody else
had it. -/
theorem vacate (h : Claimed withdrawals claims)
    (hw : withdrawals.get? hash = some w) (hlive : w.marks.live = true)
    (hdead : w'.marks.live = false) :
    Claimed (withdrawals.insert hash w') (claims.erase w.claim) := by
  have hheld : HoldsAt withdrawals hash w.claim :=
    (holdsAt_of_get? hw).mpr ⟨hlive, rfl⟩
  -- what holds after the write is an older record, for the new one is dead
  have hold : ∀ {hash' pair}, HoldsAt (withdrawals.insert hash w') hash' pair →
      hash ≠ hash' ∧ HoldsAt withdrawals hash' pair := by
    intro hash' pair hholds
    rcases holdsAt_insert.mp hholds with ⟨-, hlive', -⟩ | hold
    · rw [hdead] at hlive'
      cases hlive'
    · exact hold
  refine ⟨fun pair => ?_, fun h₁ h₂ => h.sole (hold h₁).2 (hold h₂).2⟩
  rw [Table.contains_erase, Bool.and_eq_true, Bool.not_eq_true',
    decide_eq_false_iff_not, h.held]
  constructor
  · rintro ⟨hne, hash', hholds⟩
    refine ⟨hash', holdsAt_insert.mpr (.inr ⟨?_, hholds⟩)⟩
    rintro rfl
    exact hne ((holdsAt_of_get? hw).mp hholds).2
  · rintro ⟨hash', hholds⟩
    obtain ⟨hk, hholds⟩ := hold hholds
    -- a second holder of the vacated pair would be the record itself
    refine ⟨?_, hash', hholds⟩
    rintro rfl
    exact hk (h.sole hheld hholds)

/-- A withdrawal that is written without a change of life keeps the claims
as they are. -/
theorem keep (h : Claimed withdrawals claims)
    (same : ∀ pair, (w'.marks.live = true ∧ w'.claim = pair) ↔
      HoldsAt withdrawals hash pair) :
    Claimed (withdrawals.insert hash w') claims := by
  have hiff : ∀ {hash' pair}, HoldsAt (withdrawals.insert hash w') hash' pair ↔
      HoldsAt withdrawals hash' pair := by
    intro hash' pair
    rw [holdsAt_insert]
    by_cases hk : hash = hash'
    · subst hk
      rw [same]
      simp
    · simp [hk]
  refine ⟨fun pair => ?_, fun h₁ h₂ => h.sole (hiff.mp h₁) (hiff.mp h₂)⟩
  rw [h.held]
  exact exists_congr fun hash' => hiff.symm

/-- The empty ledger holds nothing and has nothing claimed. -/
theorem empty : Claimed Table.empty Table.empty := by
  refine ⟨fun pair => ?_, ?_⟩
  · rw [Table.contains, Table.get?_empty]
    constructor
    · exact nofun
    · rintro ⟨hash, hholds⟩
      exact absurd hholds (not_holdsAt_of_absent (Table.get?_empty hash))
  · intro pair hash₁ hash₂ h₁
    exact absurd h₁ (not_holdsAt_of_absent (Table.get?_empty hash₁))

end Claimed

end

/-- The claims follow the marks through every rule. -/
theorem claimed_invariant :
    Invariant fun _ b =>
      MarksOrdered b.withdrawals ∧ Claimed b.withdrawals b.claims := by
  refine marksOrdered_invariant.extend ?opened ?kept (fun h => h)
  case opened =>
    intro o
    obtain ⟨settings, -, hb, -⟩ := Bridge.setUp_eq_ok o.success
    rw [hb]
    exact .empty
  case kept =>
    intro b c sender funds receipt b' r idle handled hmarks h
    cases handled with
    | deposit brought told => rw [told.after]; exact h
    | submit told =>
        rw [told.after]
        apply h.keep
        intro pair
        -- a fresh record carries no approval, and its hash held nothing before
        rw [told.record_eq]
        constructor
        · rintro ⟨hlive, -⟩
          cases hlive
        · exact fun hholds =>
            absurd hholds (not_holdsAt_of_absent told.fresh)
    | approve told =>
        -- unapproved, so dead; unvetoed too, for only approvals are vetoed
        have hveto : told.found.marks.cancelled = false := by
          cases hc : told.found.marks.cancelled with
          | false => rfl
          | true =>
              have := (hmarks _ _ told.found_eq).approved_of_cancelled hc
              rw [told.not_approved] at this
              cases this
        have hclaim : ∀ marks,
            ({ told.charged with marks } : Withdrawal).claim
              = told.found.claim := by
          intro marks
          rw [Bridge.charged_eq_ok told.charged_eq]
          rfl
        rw [told.after, ← hclaim]
        refine h.occupy told.found_eq ?_ ?_ ?_
        · unfold Marks.live
          rw [told.not_approved]
          rfl
        · exact Marks.live_iff.mpr ⟨rfl, hveto⟩
        · rw [hclaim]
          exact told.unclaimed
    | cancel told =>
        rw [told.after]
        refine h.vacate told.found_eq ?_ ?_
        · exact Marks.live_iff.mpr ⟨told.approved, told.not_cancelled⟩
        · show (told.found.marks.approved && !true) = false
          rw [Bool.not_true, Bool.and_false]
    | uncancel told =>
        have happroved :=
          (hmarks _ _ told.found_eq).approved_of_cancelled told.cancelled
        rw [told.after]
        -- lifting a veto revives the record; the claim it takes back is free
        refine h.occupy told.found_eq ?_ ?_ told.unclaimed
        · unfold Marks.live
          rw [told.cancelled, Bool.not_true, Bool.and_false]
        · exact Marks.live_iff.mpr ⟨happroved, rfl⟩
    | execute asks told =>
        rw [told.after]
        apply h.keep
        -- payment moves no record in or out of life
        intro pair
        rw [holdsAt_of_get? told.found_eq]
        exact Iff.rfl
    | administer only told => rw [told.frame]; exact h

-- ============================================================== the payouts

/-- The withdrawal that a taken request pays out, if it pays one out. -/
def Taken.paid? (t : Taken) : Option Withdrawal := do
  let bytes ← t.request.payoutOf
  let hash ← Bytes.ofList? 32 bytes
  t.before.bridge.withdrawals.get? hash

/-- A taken request pays out a withdrawal with this source chain and
nonce. -/
def Taken.pays (pair : ChainId × UInt64) (t : Taken) : Bool :=
  t.paid?.any fun w => w.claim = pair

/-- A withdrawal with this source chain and nonce was paid out. -/
def Withdrawal.isPaid (pair : ChainId × UInt64) (w : Withdrawal) : Bool :=
  w.marks.executed && decide (w.claim = pair)

/-- A deposit pays no record. -/
theorem Brought.payoutOf {b : Bridge} {funds : List Coin} {r : Request}
    {token : Token} {amount : Amount} {destChain destAccount : List UInt8}
    (h : Brought b funds r token amount destChain destAccount) :
    r.payoutOf = none := by
  cases h with
  | coin => rfl
  | held => rfl
  | burned => rfl

/-- An administrative request pays no record. -/
theorem Request.payoutOf_of_isAdministrative {r : Request}
    (h : r.isAdministrative = true) : r.payoutOf = none := by
  unfold payoutOf
  split
  · cases h
  · cases h
  · rfl

/-- A request that asks for no payout pays no pair. -/
theorem Taken.pays_eq_false {t : Taken} (pair : ChainId × UInt64)
    (h : t.request.payoutOf = none) : t.pays pair = false := by
  unfold pays paid?
  rw [h]
  rfl

/-- A payout pays the pair of the record it found, and no other. -/
theorem Taken.pays_eq {t : Taken} (pair : ChainId × UInt64)
    {bytes : List UInt8} {hash : Word} {w : Withdrawal}
    (hasks : t.request.payoutOf = some bytes) (hbytes : bytes = hash.toList)
    (hw : t.before.bridge.withdrawals.get? hash = some w) :
    t.pays pair = decide (w.claim = pair) := by
  unfold pays paid?
  rw [hasks]
  show ((Bytes.ofList? 32 bytes).bind _).any _ = _
  rw [Bytes.ofList?_eq_some_iff.mpr hbytes]
  show (t.before.bridge.withdrawals.get? hash).any _ = _
  rw [hw]
  rfl

/-- Writing over a withdrawal without paying it leaves the number of paid
ones as it is. -/
theorem count_isPaid_insert {withdrawals : Table Word Withdrawal}
    {hash : Word} {w w' : Withdrawal} (pair : ChainId × UInt64)
    (hw : withdrawals.get? hash = some w) (hold : w.marks.executed = false)
    (hnew : w'.marks.executed = false) :
    (withdrawals.insert hash w').count (·.isPaid pair)
      = withdrawals.count (·.isPaid pair) := by
  have := Table.count_insert_over (·.isPaid pair) w' hw
  unfold Withdrawal.isPaid at this
  rw [hold, hnew, Bool.false_and, Bool.false_and] at this
  exact this

/-- There are as many paid withdrawals as payouts that stand. -/
theorem payouts_balanced (pair : ChainId × UInt64) :
    Balanced (fun _ => True) (fun b => b.withdrawals.count (·.isPaid pair))
      (fun t => if t.pays pair then 1 else 0) (fun _ => 0) := by
  refine ⟨fun o => ?_, ?_, rfl⟩
  · obtain ⟨settings, -, hb, -⟩ := Bridge.setUp_eq_ok o.success
    rw [hb]
    exact Table.count_empty _
  · intro t _
    have handled := t.handled
    generalize hr : t.request = r at handled
    cases handled with
    | deposit brought told =>
        rw [t.pays_eq_false pair (hr ▸ brought.payoutOf), told.after]
        rfl
    | submit told =>
        -- a fresh record is unpaid, so the count gains nothing
        rw [t.pays_eq_false pair (hr ▸ rfl), told.after]
        have := Table.count_insert_absent (·.isPaid pair) told.record
          told.fresh
        rw [told.record_eq] at this ⊢
        exact this
    | approve told =>
        rw [t.pays_eq_false pair (hr ▸ rfl), told.after]
        exact count_isPaid_insert pair told.found_eq told.not_executed
          told.not_executed
    | cancel told =>
        rw [t.pays_eq_false pair (hr ▸ rfl), told.after]
        exact count_isPaid_insert pair told.found_eq told.not_executed
          told.not_executed
    | uncancel told =>
        rw [t.pays_eq_false pair (hr ▸ rfl), told.after]
        exact count_isPaid_insert pair told.found_eq told.not_executed
          told.not_executed
    | execute asks told =>
        rw [told.after,
          t.pays_eq pair (hr ▸ asks) told.bytes_eq told.found_eq]
        -- the paid record is counted now, and was not before
        have := Table.count_insert_over (·.isPaid pair)
          { told.found with
            marks := { told.found.marks with executed := true } }
          told.found_eq
        have hold : told.found.isPaid pair = false := by
          unfold Withdrawal.isPaid
          rw [told.not_executed, Bool.false_and]
        rw [hold] at this
        exact this
    | administer only told =>
        rw [t.pays_eq_false pair
          (hr ▸ Request.payoutOf_of_isAdministrative only), told.frame]
        rfl

-- ============================================================== every state

/-- No two withdrawals that are live have one claim, so at most one entry
is live with it. -/
theorem Claimed.count_le_one {withdrawals : Table Word Withdrawal}
    {claims : Table (ChainId × UInt64) Unit}
    (h : Claimed withdrawals claims) (pair : ChainId × UInt64) :
    withdrawals.count (fun w => w.marks.live && decide (w.claim = pair))
      ≤ 1 := by
  apply Table.count_le_one
  intro hash₁ w₁ hash₂ w₂ hw₁ hp₁ hw₂ hp₂
  rw [Bool.and_eq_true, decide_eq_true_eq] at hp₁ hp₂
  exact h.sole ⟨w₁, hw₁, hp₁⟩ ⟨w₂, hw₂, hp₂⟩

/-- A paid withdrawal is live, so at most one is paid with a claim. -/
theorem Claimed.count_isPaid_le_one {withdrawals : Table Word Withdrawal}
    {claims : Table (ChainId × UInt64) Unit}
    (hmarks : MarksOrdered withdrawals) (h : Claimed withdrawals claims)
    (pair : ChainId × UInt64) :
    withdrawals.count (·.isPaid pair) ≤ 1 := by
  have hlive : ∀ {hash w}, withdrawals.get? hash = some w →
      w.isPaid pair = true → HoldsAt withdrawals hash pair := by
    intro hash w hw hpaid
    unfold Withdrawal.isPaid at hpaid
    rw [Bool.and_eq_true, decide_eq_true_eq] at hpaid
    exact ⟨w, hw, (hmarks hash w hw).live_of_executed hpaid.1, hpaid.2⟩
  apply Table.count_le_one
  intro hash₁ w₁ hash₂ w₂ hw₁ hp₁ hw₂ hp₂
  exact h.sole (hlive hw₁ hp₁) (hlive hw₂ hp₂)

/-- At every moment of every run, a source chain and nonce are claimed
exactly if a withdrawal with them is approved and not vetoed. There is
never more than one such withdrawal, nor more than one that is paid, and of
all payouts of the run that stand at most one was for them. -/
theorem Run.claim_sound (r : Run) (pair : ChainId × UInt64) :
    (r.last.bridge.claims.contains pair = true ↔
        ∃ hash w, r.last.bridge.withdrawals.get? hash = some w
          ∧ (w.marks.approved = true ∧ w.marks.cancelled = false)
          ∧ (w.srcChain, w.nonce) = pair)
      ∧ r.last.bridge.withdrawals.count (fun w =>
          w.marks.approved && !w.marks.cancelled
            && decide ((w.srcChain, w.nonce) = pair)) ≤ 1
      ∧ r.last.bridge.withdrawals.count (fun w =>
          w.marks.executed && decide ((w.srcChain, w.nonce) = pair)) ≤ 1
      ∧ r.history.committed.countP (·.pays pair) ≤ 1 := by
  obtain ⟨hmarks, hclaimed⟩ := (claimed_invariant.throughout r).now
  have hpaid := hclaimed.count_isPaid_le_one hmarks pair
  refine ⟨?_, hclaimed.count_le_one pair, hpaid, ?_⟩
  · rw [hclaimed.held]
    unfold HoldsAt
    simp only [Marks.live_iff]
    exact Iff.rfl
  · have hbooks := (payouts_balanced pair).books
      (.ofBridge (fun _ => trivial) (fun _ _ _ => trivial)
        (fun _ => trivial)) r
    unfold Books at hbooks
    rw [sumOver_zero, Nat.add_zero] at hbooks
    rw [Table.countP_eq_sum]
    exact Nat.le_trans (Nat.le_of_eq hbooks.symm) hpaid

end TokenBridge
