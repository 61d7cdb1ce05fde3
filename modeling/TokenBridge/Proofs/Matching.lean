/-
A withdrawal is valid exactly if its deposit is there.

Two bridges compute the hash of a transfer each from records of its own,
one from the deposit that it took and the other from the withdrawal that
was submitted, and a reviewer computes it once more from what it sees. The
three agree on which value stands where in the buffer. So a withdrawal is
never at fault by itself; and where no deposit of one bridge collides with
a withdrawal of the other, a deposit under the hash of a withdrawal is the
deposit of that withdrawal, field by field. All that is left to ask is
whether there is a deposit under that hash, and the verdict is the answer.
-/
import TokenBridge.Proofs.TwoBridges

namespace TokenBridge

-- ============================================================== the buffers

/-- What the deposits of a bridge on a chain hash. -/
def depositBuffers (log : Table Word Deposit) (chain : ChainId) :
    List (List UInt8) :=
  log.values.map fun d => (d.transfer chain).preimage

/-- What the withdrawals of a bridge on a chain hash. -/
def withdrawalBuffers (withdrawals : Table Word Withdrawal)
    (chain : ChainId) : List (List UInt8) :=
  withdrawals.values.map fun w => (w.transfer chain).preimage

/-- No buffer of one kind shares its hash with another one of the other
kind. -/
def NoneCollide (ps qs : List (List UInt8)) : Prop :=
  ∀ p ∈ ps, ∀ q ∈ qs, keccak256 p = keccak256 q → p = q

/-- The buffer of a deposit on record is among the log's buffers. -/
theorem Deposit.mem_buffers {log : Table Word Deposit} {hash : Word}
    {d : Deposit} (chain : ChainId) (h : log.get? hash = some d) :
    (d.transfer chain).preimage ∈ depositBuffers log chain :=
  List.mem_map.mpr ⟨d, Table.mem_values_of_get? h, rfl⟩

/-- The buffer of a withdrawal on record is among the table's buffers. -/
theorem Withdrawal.mem_buffers {withdrawals : Table Word Withdrawal}
    {hash : Word} {w : Withdrawal} (chain : ChainId)
    (h : withdrawals.get? hash = some w) :
    (w.transfer chain).preimage ∈ withdrawalBuffers withdrawals chain :=
  List.mem_map.mpr ⟨w, Table.mem_values_of_get? h, rfl⟩

-- ================================================================ both ends

/-- The two ends of a transfer agree in every field. -/
theorem Backs.of_transfer_eq {a b : ChainId} {d : Deposit} {w : Withdrawal}
    (h : d.transfer a = w.transfer b) : Backs b d w where
  destChain := congrArg Transfer.destChain h
  srcAccount := congrArg Transfer.srcAccount h
  destAccount := congrArg Transfer.destAccount h
  token := congrArg Transfer.token h
  amount := congrArg Transfer.amount h
  nonce := congrArg Transfer.nonce h

/-- A deposit of one bridge and a withdrawal of another that stand under
one hash are the two ends of one transfer. -/
theorem Run.backs_of_hash_eq {a b : ChainId} {r r' : Run}
    (ha : r.last.bridge.RunsOn a) (hb : r'.last.bridge.RunsOn b)
    (hfree : NoneCollide (depositBuffers r.last.bridge.deposits a)
      (withdrawalBuffers r'.last.bridge.withdrawals b))
    {hash : Word} {d : Deposit} {w : Withdrawal}
    (hd : r.last.bridge.deposits.get? hash = some d)
    (hw : r'.last.bridge.withdrawals.get? hash = some w) : Backs b d w := by
  have hhash : (d.transfer a).hash = (w.transfer b).hash := by
    rw [r.depositHash_eq_of_runsOn hd ha, r'.hash_eq_of_runsOn hw hb]
  have hbuffer : (d.transfer a).preimage = (w.transfer b).preimage :=
    hfree _ (Deposit.mem_buffers a hd) _ (Withdrawal.mem_buffers b hw) hhash
  exact .of_transfer_eq (Transfer.preimage_injective hbuffer)

-- ============================================================== the verdict

/-- On a sighting that is not at fault by itself, the verdict is what the
log of its source says, and no miss is counted. -/
theorem Reviewer.verify_eq_judge {v : Reviewer} {log : Table Word Deposit}
    {w : Withdrawal} {hash : Word} {chain : ChainId}
    (hfault : (w.sighting hash chain).fault? v.config.thisChain = none)
    (hsource : v.sources.get? w.srcChain = some (sourceOf log)) :
    v.verify (w.sighting hash chain)
      = ((w.sighting hash chain).judge (sourceOf log hash), v) := by
  have hsrc : (w.sighting hash chain).transfer.srcChain = w.srcChain := rfl
  unfold verify
  rw [hfault, hsrc, hsource]
  rfl

/-- Without a deposit the source's answer is judged as no deposit. -/
theorem Reviewer.judge_absent {log : Table Word Deposit} {hash : Word}
    (s : Sighting) (h : log.get? hash = none) :
    s.judge (sourceOf log hash) = .invalid .noDeposit := by
  unfold sourceOf
  rw [h]
  rfl

/-- With a deposit that agrees in every field the answer is judged valid. -/
theorem Reviewer.judge_backed {log : Table Word Deposit} {hash : Word}
    {d : Deposit} {w : Withdrawal} {chain : ChainId}
    (h : log.get? hash = some d) (hbacks : Backs chain d w) :
    (w.sighting hash chain).judge (sourceOf log hash) = .valid := by
  unfold sourceOf
  rw [h]
  exact judge_found_eq_valid_iff.mpr (Deposit.mismatch_eq_none_iff.mpr hbacks)

-- ========================================================== sample verdicts

namespace Sample

/-- A reviewer of the chain here that asks the log of a run there. -/
def reviewer (there : Run) : Reviewer :=
  ⟨⟨hereChain, 15, "canceler"⟩, Table.empty.insert thereChain
    (Reviewer.sourceOf there.last.bridge.deposits), 0⟩

def sighting : Reviewer.Sighting := record.sighting hash hereChain

/-- The bridge with the submission is the one here. -/
theorem runsOn_submitted : submitted.last.bridge.RunsOn hereChain := by
  obtain ⟨-, hchain, -, -⟩ := ready_state
  rw [last_submitted]
  exact .of_thisChain hchain

/-- The bridge with the deposit is the one there. -/
theorem runsOn_deposited : deposited.last.bridge.RunsOn thereChain := by
  obtain ⟨-, -, -, -, -, hchain, -⟩ := deposited_state
  exact .of_thisChain hchain

/-- One withdrawal is on record here, so one buffer. -/
theorem withdrawalBuffers_submitted :
    withdrawalBuffers submitted.last.bridge.withdrawals hereChain
      = [(record.transfer hereChain).preimage] := by
  rw [last_submitted]
  rfl

/-- One deposit is on record there, so one buffer. -/
theorem depositBuffers_deposited :
    depositBuffers deposited.last.bridge.deposits thereChain
      = [(deposit.transfer thereChain).preimage] := by
  obtain ⟨-, hvalues, -⟩ := deposited_state
  unfold depositBuffers
  rw [hvalues]
  rfl

/-- The one deposit and the one withdrawal have one buffer. -/
theorem noneCollide_deposited :
    NoneCollide (depositBuffers deposited.last.bridge.deposits thereChain)
      (withdrawalBuffers submitted.last.bridge.withdrawals hereChain) := by
  rw [depositBuffers_deposited, withdrawalBuffers_submitted, transfer_deposit]
  intro p hp q hq _
  rw [List.mem_singleton.mp hp, List.mem_singleton.mp hq]

theorem readyThere_state :
    readyThere.last.bridge.deposits = Table.empty
      ∧ readyThere.last.bridge.settings.map (·.thisChain)
        = some thereChain := by
  decide +kernel

/-- With nothing deposited yet no two buffers can collide. -/
theorem noneCollide_readyThere :
    NoneCollide (depositBuffers readyThere.last.bridge.deposits thereChain)
      (withdrawalBuffers submitted.last.bridge.withdrawals hereChain) := by
  rw [readyThere_state.1]
  intro p hp
  exact absurd hp List.not_mem_nil

end Sample

-- ============================================================ every verdict

/-- In any state of a bridge there and of a bridge here, if no deposit
there collides with a withdrawal here: a reviewer of the chain here that
asks the log there finds a withdrawal from there valid exactly if there is
a deposit under its hash, and then the two agree in every field. Otherwise
it finds that there is no deposit. No other verdict is ever given. -/
theorem Run.verdict_iff_deposit {a b : ChainId} (r r' : Run)
    (there : r.last.bridge.RunsOn a) (here : r'.last.bridge.RunsOn b)
    (hfree : NoneCollide (depositBuffers r.last.bridge.deposits a)
      (withdrawalBuffers r'.last.bridge.withdrawals b))
    (v : Reviewer) (hthis : v.config.thisChain = b)
    (hsource : v.sources.get? a
      = some (Reviewer.sourceOf r.last.bridge.deposits))
    {hash : Word} {w : Withdrawal}
    (hw : r'.last.bridge.withdrawals.get? hash = some w)
    (hsrc : w.srcChain = a) :
    ((v.verify (w.sighting hash b)).1 = .valid
        ↔ r.last.bridge.deposits.contains hash = true)
      ∧ (∀ d, r.last.bridge.deposits.get? hash = some d → Backs b d w)
      ∧ (r.last.bridge.deposits.contains hash = false →
          (v.verify (w.sighting hash b)).1 = .invalid .noDeposit)
      ∧ (v.verify (w.sighting hash b)).1 ≠ .pending
      ∧ ∀ reason, (v.verify (w.sighting hash b)).1 = .invalid reason →
          reason = .noDeposit := by
  have hfault : (w.sighting hash b).fault? v.config.thisChain = none :=
    Withdrawal.fault_eq_none_iff.mpr
      ⟨hthis.symm, r'.hash_eq_of_runsOn hw here⟩
  rw [← hsrc] at hsource
  rw [Reviewer.verify_eq_judge hfault hsource]
  -- equal hashes come from equal buffers, and these fix every field
  have hbacks : ∀ d, r.last.bridge.deposits.get? hash = some d →
      Backs b d w := fun d hd => Run.backs_of_hash_eq there here hfree hd hw
  unfold Table.contains
  cases hd : r.last.bridge.deposits.get? hash with
  | none =>
      rw [Reviewer.judge_absent _ hd]
      refine ⟨⟨nofun, nofun⟩, nofun, fun _ => rfl, nofun, fun reason h => ?_⟩
      cases h
      rfl
  | some d =>
      rw [Reviewer.judge_backed hd (hbacks d hd)]
      refine ⟨⟨fun _ => rfl, fun _ => rfl⟩, fun d' hd' => ?_, nofun, nofun,
        nofun⟩
      cases hd'
      exact hbacks d hd

/-- One withdrawal, before its deposit is made and after it. -/
theorem Run.verdict_before_and_after_deposit :
    ((Sample.reviewer Sample.readyThere).verify Sample.sighting).1
        = .invalid .noDeposit
      ∧ ((Sample.reviewer Sample.deposited).verify Sample.sighting).1
        = .valid := by
  constructor
  · obtain ⟨-, -, habsent, -, -⟩ := Run.verdict_iff_deposit
      Sample.readyThere Sample.submitted
      (.of_thisChain Sample.readyThere_state.2) Sample.runsOn_submitted
      Sample.noneCollide_readyThere (Sample.reviewer Sample.readyThere) rfl
      (Table.get?_insert_self _ _ _) Sample.get?_submitted rfl
    apply habsent
    rw [Sample.readyThere_state.1]
    rfl
  · obtain ⟨hvalid, -⟩ := Run.verdict_iff_deposit
      Sample.deposited Sample.submitted
      Sample.runsOn_deposited Sample.runsOn_submitted
      Sample.noneCollide_deposited (Sample.reviewer Sample.deposited) rfl
      (Table.get?_insert_self _ _ _) Sample.get?_submitted rfl
    have hlogged := Sample.deposited.log_ahead Sample.noCollision_deposited
      Sample.hash Sample.deposit Sample.get?_deposited
    apply hvalid.mpr
    unfold Table.contains
    rw [hlogged]
    rfl

end TokenBridge
