/-
The deposits on record only grow.

Deposits are kept under their hash, so writing one could overwrite another
only if the hashes of two different buffers were equal. Where no two of the
buffers of a run collide, this never happens: a new deposit has a nonce of
its own, hence a buffer of its own (`Transfer.preimage_injective`). What
other chains go by is the log that no report can take back any more
(`Session.committedLog`), and that log grows from step to step, too.
-/
import TokenBridge.Proofs.History
import TokenBridge.Proofs.Transfer

namespace TokenBridge

-- ================================================================== the log

/-- Each deposit stands under the hash of its transfer, and is numbered
below the next nonce. -/
def LogSound (b : Bridge) : Prop :=
  ∀ hash d, b.deposits.get? hash = some d →
    ∃ s n, b.settings = some s ∧ b.nextNonce = some n
      ∧ hash = (d.transfer s.thisChain).hash ∧ d.nonce.toNat < n.toNat

/-- A nonce that is not the last word has a successor. -/
theorem toNat_nonce_succ {n : UInt64} (h : n ≠ maxWord64) :
    (n + 1).toNat = n.toNat + 1 := by
  have hne : n.toNat ≠ maxWord64.toNat := fun he => h (UInt64.toNat_inj.mp he)
  have hmax : maxWord64.toNat = 2 ^ 64 - 1 := by decide
  have hlt := n.toNat_lt
  rw [UInt64.toNat_add, UInt64.toNat_one]
  omega

/-- Every deposit on record stands under its own hash, with a nonce that is
given away: only a deposit writes the log, and it takes the next nonce. -/
theorem logSound_invariant : Invariant fun _ => LogSound := by
  refine .ofBridge ?opened ?kept (fun h => h)
  case opened =>
    intro o hash d hd
    obtain ⟨settings, -, hb, -⟩ := Bridge.setUp_eq_ok o.success
    rw [hb] at hd
    exact absurd (hd.symm.trans (Table.get?_empty hash)) nofun
  case kept =>
    intro b c sender funds receipt b' r idle handled h
    unfold LogSound
    cases handled with
    | deposit brought told =>
        intro hash d hd
        have hnext := toNat_nonce_succ told.nonce_ne
        have hnonce : b'.nextNonce = some (told.record.nonce + 1) :=
          (congrArg Bridge.nextNonce told.after :)
        refine ⟨told.settings, told.record.nonce + 1, told.settings_after,
          hnonce, ?_⟩
        rw [told.deposits_after, Table.get?_insert] at hd
        -- the record written is the newest; any other was there before, below
        -- the old next nonce
        by_cases hk : (told.record.transfer told.settings.thisChain).hash = hash
        · rw [if_pos hk] at hd
          cases hd
          exact ⟨hk.symm, by omega⟩
        · rw [if_neg hk] at hd
          obtain ⟨s, n, hs, hn, hhash, hlt⟩ := h hash d hd
          rw [told.settings_eq] at hs
          rw [told.nextNonce_eq] at hn
          cases hs
          cases hn
          exact ⟨hhash, by omega⟩
    | submit told => rw [told.after]; exact h
    | approve told => rw [told.after]; exact h
    | cancel told => rw [told.after]; exact h
    | uncancel told => rw [told.after]; exact h
    | execute asks told => rw [told.after]; exact h
    -- administration can move the settings, but never this chain's id
    | administer only told =>
        intro hash d hd
        have hlog : b'.deposits = b.deposits := by rw [told.frame]
        have hnonce : b'.nextNonce = b.nextNonce := by rw [told.frame]
        rw [hlog] at hd
        obtain ⟨s, n, hs, hn, hhash, hlt⟩ := h hash d hd
        obtain ⟨s', hs', hmoved⟩ := told.settings_of hs
        refine ⟨s', n, hs', hnonce.trans hn, ?_, hlt⟩
        rw [hmoved.thisChain]
        exact hhash

-- ============================================================== the buffers

/-- The buffers of the deposits on record after a taken request. -/
def Taken.buffers (t : Taken) : List (List UInt8) :=
  match t.after.settings with
  | some s => t.after.deposits.values.map fun d =>
      (d.transfer s.thisChain).preimage
  | none => []

/-- No two buffers of deposits that were hashed along taken requests share
a hash without being equal. -/
def NoCollision (taken : List Taken) : Prop :=
  ∀ p ∈ taken.flatMap Taken.buffers, ∀ q ∈ taken.flatMap Taken.buffers,
    keccak256 p = keccak256 q → p = q

/-- The past of a run that meets no collision meets none either. -/
theorem NoCollision.prefix {past future : List Taken}
    (h : NoCollision (past ++ future)) : NoCollision past := by
  intro p hp q hq
  rw [NoCollision, List.flatMap_append] at h
  exact h p (List.mem_append_left _ hp) q (List.mem_append_left _ hq)

/-- Every deposit on record has its buffer among those of the past. -/
def LogHashed (past : List Taken) (b : Bridge) : Prop :=
  ∀ hash d s, b.deposits.get? hash = some d → b.settings = some s →
    (d.transfer s.thisChain).preimage ∈ past.flatMap Taken.buffers

/-- The buffer of every deposit on record is among those of the state. -/
theorem Taken.mem_buffers (t : Taken) {hash : Word} {d : Deposit}
    {s : Settings} (hd : t.after.deposits.get? hash = some d)
    (hs : t.after.settings = some s) :
    (d.transfer s.thisChain).preimage ∈ t.buffers := by
  unfold buffers
  rw [hs]
  exact List.mem_map.mpr ⟨d, Table.mem_values_of_get? hd, rfl⟩

/-- Every deposit on record was hashed along the way, when it was written. -/
theorem logHashed_invariant : Invariant LogHashed where
  opened := by
    intro o hash d s hd
    obtain ⟨settings, -, hb, -⟩ := Bridge.setUp_eq_ok o.success
    rw [hb] at hd
    exact absurd (hd.symm.trans (Table.get?_empty hash)) nofun
  kept := by
    intro past t _ hash d s hd hs
    rw [List.flatMap_append, List.flatMap_singleton]
    exact List.mem_append_right _ (t.mem_buffers hd hs)
  undone := by
    intro past t _ h hash d s hd hs
    rw [List.flatMap_append]
    exact List.mem_append_left _ (h hash d s hd hs)
  blind := fun h => h

-- =============================================================== the growth

/-- A log that holds all of another one. -/
def LogLe (log log' : Table Word Deposit) : Prop :=
  ∀ hash d, log.get? hash = some d → log'.get? hash = some d

theorem LogLe.refl (log : Table Word Deposit) : LogLe log log :=
  fun _ _ h => h

theorem LogLe.trans {log₁ log₂ log₃ : Table Word Deposit}
    (h : LogLe log₁ log₂) (h' : LogLe log₂ log₃) : LogLe log₁ log₃ :=
  fun hash d hd => h' hash d (h hash d hd)

/-- A request that is taken overwrites no deposit. -/
theorem Taken.log_le (t : Taken) {past : List Taken}
    (hsound : LogSound t.before.bridge)
    (hhashed : LogHashed past t.before.bridge)
    (hfree : NoCollision (past ++ [t])) :
    LogLe t.before.bridge.deposits t.after.deposits := by
  rcases t.handled.deposited_or_kept with
    ⟨_, _, _, _, ⟨told⟩⟩ | ⟨hkept, -, -⟩
  · intro hash d hd
    obtain ⟨s, n, hs, hn, hhash, hlt⟩ := hsound hash d hd
    rw [told.settings_eq] at hs
    rw [told.nextNonce_eq] at hn
    cases hs
    cases hn
    rw [told.deposits_after, Table.get?_insert_ne]
    · exact hd
    -- one hash would be one buffer, and so one nonce
    · intro heq
      have hwritten : t.after.deposits.get?
          (told.record.transfer told.settings.thisChain).hash
            = some told.record := by
        rw [told.deposits_after]
        exact Table.get?_insert_self _ _ _
      have hnew := t.mem_buffers hwritten told.settings_after
      have hold := hhashed hash d told.settings hd told.settings_eq
      have hbuffers := hfree _
        (by rw [List.flatMap_append]; exact List.mem_append_left _ hold) _
        (by rw [List.flatMap_append, List.flatMap_singleton]
            exact List.mem_append_right _ hnew)
        (hhash.symm.trans heq.symm)
      have hnonce : d.nonce = told.record.nonce :=
        congrArg Transfer.nonce (Transfer.preimage_injective hbuffers)
      rw [hnonce] at hlt
      exact Nat.lt_irrefl _ hlt
  · rw [hkept]
    exact .refl _

/-- The log that no report can take back any more. -/
def Session.committedLog (s : Session) : Table Word Deposit :=
  (s.checkpoint.getD s.bridge).deposits

/-- Where nothing waits, all of the log stands. -/
theorem Session.committedLog_of_settled {s : Session}
    (h : s.checkpoint = none) : s.committedLog = s.bridge.deposits := by
  unfold committedLog
  rw [h]
  rfl

/-- What a move adds to the log that stands, and to the one of the bridge,
which is ahead of it. -/
theorem Moved.log_le {s s' : Session} {h h' : History}
    (hm : Moved s h s' h') (hc : Coherent s h) (hsound : LogSound s.bridge)
    (hhashed : LogHashed h.taken s.bridge) (hfree : NoCollision h'.taken)
    (hahead : LogLe s.committedLog s.bridge.deposits) :
    LogLe s.committedLog s'.committedLog
      ∧ LogLe s'.committedLog s'.bridge.deposits := by
  unfold Session.committedLog at hahead ⊢
  cases hm with
  | still bridge checkpoint =>
      rw [bridge, checkpoint]
      exact ⟨.refl _, hahead⟩
  | migrated =>
      cases hb : s.checkpoint with
      | none => exact ⟨.refl _, .refl _⟩
      | some b =>
          rw [hb] at hahead
          exact ⟨.refl _, hahead⟩
  | took t before =>
      subst before
      rw [History.taken_take] at hfree
      have hgrown := t.log_le hsound hhashed hfree
      rw [hc.checkpoint_eq_none t.idle]
      cases t.receipt.awaits with
      | true => exact ⟨.refl _, hgrown⟩
      | false => exact ⟨hgrown, .refl _⟩
  | accepted flying => exact ⟨hahead, .refl _⟩
  | refused => exact ⟨.refl _, .refl _⟩

theorem log_invariant :
    Invariant fun past b => LogSound b ∧ LogHashed past b :=
  logSound_invariant.and logHashed_invariant

/-- The bridge is ahead of the log that stands, throughout every run. -/
theorem Run.log_ahead (r : Run) (hfree : NoCollision r.history.taken) :
    LogLe r.last.committedLog r.last.bridge.deposits := by
  have key := log_invariant.induction
    (I := fun s h => NoCollision h.taken →
      LogLe s.committedLog s.bridge.deposits)
    (fun o _ => .refl _) (fun hc hI hahead hm hfree => ?_) r
  · exact key.2 hfree
  · obtain ⟨new, hnew⟩ := hm.taken_append
    have hpast := hahead (by rw [hnew] at hfree; exact hfree.prefix)
    exact (hm.log_le hc hI.now.1 hI.now.2 hfree hpast).2

/-- The log that stands grows with every step of a run. -/
theorem Run.log_le_extend (r : Run) (x : Session.Step)
    (hx : ∀ setup, x ≠ .setUp setup)
    (hfree : NoCollision (r.extend x hx).history.taken) :
    LogLe r.last.committedLog (r.extend x hx).last.committedLog := by
  have hm := r.moved x hx
  obtain ⟨new, hnew⟩ := hm.taken_append
  have hpast : NoCollision r.history.taken := by
    rw [hnew] at hfree
    exact hfree.prefix
  have hI := (log_invariant.throughout r).now
  exact (hm.log_le r.coherent hI.1 hI.2 hfree (r.log_ahead hpast)).1

end TokenBridge
