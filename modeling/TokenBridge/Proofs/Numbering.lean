/-
The deposits on record are numbered without gaps, and for good.

A deposit writes three fields one after the other: the next nonce, the log
under transfer hashes, and the index from nonces to hashes. What ties them
together comes in two parts. The index holds the nonces from one up to the
next one and no others, whatever the hashes are (`Dense`). That the index
and the log point at each other (`Indexed`) leans on the hashes: a deposit
that fell on the hash of another would take it out of the log, and leave
its nonce pointing at a stranger. Where the buffers of a run do not
collide, both hold in every state, the state that a refused report brings
back included; so a question about a nonce always finds its deposit.
-/
import Mathlib.Logic.ExistsUnique
import TokenBridge.Proofs.TwoBridges

namespace TokenBridge

-- ================================================================ the index

/-- The nonces from one up to the next one are used, and no others. -/
structure Dense (index : Table UInt64 Word) (next : UInt64) : Prop where
  pos : 1 ≤ next.toNat
  /-- The numbers from one up to the next are used, and no others. -/
  used : ∀ k, index.contains k = true ↔
    1 ≤ k.toNat ∧ k.toNat < next.toNat

namespace Dense

variable {index : Table UInt64 Word} {next : UInt64}

/-- Before the first nonce no number is in the index. -/
theorem empty : Dense Table.empty 1 := by
  refine ⟨Nat.le_refl 1, fun k => ?_⟩
  have hone : (1 : UInt64).toNat = 1 := rfl
  rw [Table.contains, Table.get?_empty, hone]
  constructor
  · intro h
    cases h
  · omega

theorem get?_next (h : Dense index next) : index.get? next = none := by
  cases hk : index.contains next with
  | false => exact Table.contains_eq_false_iff.mp hk
  | true => exact absurd ((h.used next).mp hk).2 (Nat.lt_irrefl _)

/-- The next nonce extends a dense index by itself. -/
theorem insert (h : Dense index next) (hlast : next ≠ maxWord64)
    (hash : Word) : Dense (index.insert next hash) (next + 1) := by
  have hnext := toNat_nonce_succ hlast
  have hpos := h.pos
  refine ⟨by omega, fun k => ?_⟩
  rw [Table.contains_insert, Bool.or_eq_true, decide_eq_true_eq, h.used,
    hnext]
  constructor
  · rintro (rfl | hk)
    · omega
    · omega
  · intro hk
    by_cases he : k.toNat = next.toNat
    · exact .inl (UInt64.toNat_inj.mp he).symm
    · exact .inr (by omega)

end Dense

/-- The next nonce is known, and the index is dense below it. -/
def IndexDense (b : Bridge) : Prop :=
  ∃ next, b.nextNonce = some next ∧ Dense b.depositByNonce next

/-- Only a deposit takes a number, and it takes the next one. -/
theorem indexDense_invariant : Invariant fun _ => IndexDense := by
  refine .ofBridge ?opened ?kept (fun h => h)
  case opened =>
    intro o
    obtain ⟨settings, -, hb, -⟩ := Bridge.setUp_eq_ok o.success
    rw [hb]
    exact ⟨1, rfl, .empty⟩
  case kept =>
    intro b c sender funds receipt b' r idle handled h
    obtain ⟨next, hnext, hdense⟩ := h
    rcases handled.deposited_or_kept with
      ⟨_, _, _, _, ⟨told⟩⟩ | ⟨-, hindex, hnonce⟩
    · rw [told.nextNonce_eq] at hnext
      cases hnext
      rw [told.after]
      exact ⟨_, rfl, hdense.insert told.nonce_ne _⟩
    · unfold IndexDense
      rw [hindex, hnonce]
      exact ⟨next, hnext, hdense⟩

-- ======================================================== the log behind it

/-- The index and the log point at each other. -/
structure Indexed (log : Table Word Deposit) (index : Table UInt64 Word) :
    Prop where
  logged : ∀ {k hash}, index.get? k = some hash →
    ∃ d, log.get? hash = some d ∧ d.nonce = k
  indexed : ∀ {hash d}, log.get? hash = some d →
    index.get? d.nonce = some hash

namespace Indexed

variable {log : Table Word Deposit} {index : Table UInt64 Word}

/-- With nothing logged, nothing has to be pointed at. -/
theorem empty : Indexed Table.empty Table.empty := by
  constructor
  · intro k hash hk
    rw [Table.get?_empty] at hk
    cases hk
  · intro hash d hd
    rw [Table.get?_empty] at hd
    cases hd

/-- A deposit with a nonce and a hash of its own. -/
theorem insert (h : Indexed log index) {hash : Word} {d : Deposit}
    (hnonce : index.get? d.nonce = none) (hhash : log.get? hash = none) :
    Indexed (log.insert hash d) (index.insert d.nonce hash) := by
  constructor
  · intro k hash' hk
    rw [Table.get?_insert] at hk
    by_cases he : d.nonce = k
    · rw [if_pos he] at hk
      cases hk
      exact ⟨d, Table.get?_insert_self _ _ _, he⟩
    · rw [if_neg he] at hk
      obtain ⟨d', hd', hk'⟩ := h.logged hk
      refine ⟨d', ?_, hk'⟩
      rw [Table.get?_insert_ne]
      · exact hd'
      · rintro rfl
        rw [hhash] at hd'
        cases hd'
  · intro hash' d' hd'
    rw [Table.get?_insert] at hd'
    by_cases he : hash = hash'
    · rw [if_pos he] at hd'
      cases hd'
      rw [← he]
      exact Table.get?_insert_self _ _ _
    · rw [if_neg he] at hd'
      have hold := h.indexed hd'
      rw [Table.get?_insert_ne]
      · exact hold
      · intro hsame
        rw [← hsame, hnonce] at hold
        cases hold

/-- Each hash is reached from one nonce only, that of its deposit. -/
theorem nonce_eq (h : Indexed log index) {k : UInt64} {hash : Word}
    {d : Deposit} (hk : index.get? k = some hash)
    (hd : log.get? hash = some d) : k = d.nonce := by
  obtain ⟨d', hd', hnonce⟩ := h.logged hk
  rw [hd] at hd'
  cases hd'
  exact hnonce.symm

end Indexed

-- ================================================ under hashes of their own

/-- What a bridge keeps as long as no two buffers of the run collide. -/
theorem Invariant.extendFree {I : List Taken → Bridge → Prop}
    {J : Bridge → Prop} (inv : Invariant I) (opened : ∀ o : Opening, J o.bridge)
    (kept : ∀ past (t : Taken), NoCollision (past ++ [t]) →
      I past t.before.bridge → J t.before.bridge → J t.after)
    (blind : ∀ {b inFlight version}, J b → J { b with inFlight, version }) :
    Invariant fun past b => I past b ∧ (NoCollision past → J b) where
  opened := fun o => ⟨inv.opened o, fun _ => opened o⟩
  kept := fun past t h => ⟨inv.kept past t h.1,
    fun hfree => kept past t hfree h.1 (h.2 hfree.prefix)⟩
  undone := fun past t ha h =>
    ⟨inv.undone past t ha h.1, fun hfree => h.2 hfree.prefix⟩
  blind := fun h => ⟨inv.blind h.1, fun hfree => blind (h.2 hfree)⟩

/-- A new deposit comes under a hash that the log does not have. -/
theorem Deposited.get?_hash {t : Taken} {past : List Taken} {token : Token}
    {amount : Amount} {destChain destAccount : List UInt8}
    (told : Deposited t.before.bridge t.before.context t.sender token amount
      destChain destAccount t.receipt t.after)
    (hsound : LogSound t.before.bridge)
    (hhashed : LogHashed past t.before.bridge)
    (hfree : NoCollision (past ++ [t])) :
    t.before.bridge.deposits.get?
      (told.record.transfer told.settings.thisChain).hash = none := by
  rw [← Option.not_isSome_iff_eq_none, Option.isSome_iff_exists]
  rintro ⟨d, hd⟩
  -- the deposit there would still be there, and it is not the new one
  have hkept := t.log_le hsound hhashed hfree _ d hd
  rw [told.deposits_after, Table.get?_insert_self] at hkept
  obtain ⟨s, n, -, hn, -, hlt⟩ := hsound _ d hd
  rw [told.nextNonce_eq] at hn
  cases hn
  cases hkept
  exact Nat.lt_irrefl _ hlt

theorem numbered_invariant :
    Invariant fun past b => (LogSound b ∧ LogHashed past b) ∧ IndexDense b :=
  log_invariant.and indexDense_invariant

/-- Without a collision the log and the index stay each other's inverse: a
deposit writes a new hash under a new number. -/
theorem indexed_invariant :
    Invariant fun past b =>
      ((LogSound b ∧ LogHashed past b) ∧ IndexDense b)
        ∧ (NoCollision past → Indexed b.deposits b.depositByNonce) := by
  refine numbered_invariant.extendFree ?opened ?kept (fun h => h)
  case opened =>
    intro o
    obtain ⟨settings, -, hb, -⟩ := Bridge.setUp_eq_ok o.success
    rw [hb]
    exact .empty
  case kept =>
    intro past t hfree hlog h
    obtain ⟨⟨hsound, hhashed⟩, next, hnext, hdense⟩ := hlog
    -- the two entries of a deposit are both new, so neither overwrites one
    rcases t.handled.deposited_or_kept with
      ⟨_, _, _, _, ⟨told⟩⟩ | ⟨hlogged, hindex, -⟩
    · have habsent := told.get?_hash hsound hhashed hfree
      rw [told.nextNonce_eq] at hnext
      cases hnext
      rw [told.after]
      exact h.insert hdense.get?_next habsent
    · rw [hlogged, hindex]
      exact h

-- ============================================================== what stands

/-- What was on record right after a request is on record still, if the
request stands: in the log that stands if it is over, in the log of the
bridge if it waits for its report. -/
structure LogStands (s : Session) (h : History) : Prop where
  /-- The log of the bridge is never behind the log that stands. -/
  ahead : LogLe s.committedLog s.bridge.deposits
  settled : ∀ t ∈ h.settled, LogLe t.after.deposits s.committedLog
  pending : ∀ t, h.pending = some t →
    LogLe t.after.deposits s.bridge.deposits

namespace LogStands

/-- At set-up nothing has been asked, so nothing can be lost. -/
theorem opened (o : Opening) : LogStands o.session .empty :=
  ⟨.refl _, fun _ ht => absurd ht List.not_mem_nil,
    fun _ ht => absurd ht (Option.some_ne_none _).symm⟩

/-- What a committed request had on record is on record now. -/
theorem committed {s : Session} {h : History} (hs : LogStands s h) {t : Taken}
    (ht : t ∈ h.committed) : LogLe t.after.deposits s.bridge.deposits := by
  rcases List.mem_append.mp ht with ht | ht
  · exact (hs.settled t ht).trans hs.ahead
  · exact hs.pending t (Option.mem_toList.mp ht)

/-- The log that stands grows, and what a move settles was in the log of
the bridge before. -/
theorem moved {s s' : Session} {h h' : History} (hm : Moved s h s' h')
    (hc : Coherent s h) (hsound : LogSound s.bridge)
    (hhashed : LogHashed h.taken s.bridge) (hfree : NoCollision h'.taken)
    (hs : LogStands s h) : LogStands s' h' := by
  obtain ⟨hgrown, hahead⟩ := hm.log_le hc hsound hhashed hfree hs.ahead
  have hold : ∀ t ∈ h.settled, LogLe t.after.deposits s'.committedLog :=
    fun t ht => (hs.settled t ht).trans hgrown
  cases hm with
  | still bridge checkpoint =>
      refine ⟨hahead, hold, fun t ht => ?_⟩
      rw [bridge]
      exact hs.pending t ht
  | migrated => exact ⟨hahead, hold, hs.pending⟩
  | took t before =>
      subst before
      unfold History.take
      -- a request that waits is settled by its report, any other at once
      cases ha : t.receipt.awaits with
      | true =>
          rw [ha] at hahead hold
          refine ⟨hahead, hold, fun t' ht' => ?_⟩
          rw [← Option.some.inj ht']
          exact .refl _
      | false =>
          rw [ha] at hahead hold
          refine ⟨hahead, fun t' ht' => ?_, fun t' ht' => ?_⟩
          · rcases List.mem_append.mp ht' with ht' | ht'
            · exact hold t' ht'
            · rw [List.mem_singleton.mp ht']
              show LogLe t.after.deposits
                (t.before.checkpoint.getD t.after).deposits
              rw [hc.checkpoint_eq_none t.idle]
              exact .refl _
          · exact absurd ((hc.pending_eq_none t.idle).symm.trans ht')
              (Option.some_ne_none _).symm
  | accepted flying =>
      refine ⟨hahead, fun t ht => ?_, fun t ht => ?_⟩
      · rcases List.mem_append.mp ht with ht | ht
        · exact hold t ht
        · exact hs.pending t (Option.mem_toList.mp ht)
      · exact absurd ht (Option.some_ne_none _).symm
  | refused =>
      exact ⟨hahead, hold, fun _ ht => absurd ht (Option.some_ne_none _).symm⟩

end LogStands

/-- What stands is never changed or removed, throughout every run. -/
theorem Run.logStands (r : Run) (hfree : NoCollision r.history.taken) :
    LogStands r.last r.history := by
  have key := log_invariant.induction
    (I := fun s h => NoCollision h.taken → LogStands s h)
    (fun o _ => .opened o) (fun hc hI hs hm hfree => ?_) r
  · exact key.2 hfree
  · obtain ⟨new, hnew⟩ := hm.taken_append
    have hpast := hs (by rw [hnew] at hfree; exact hfree.prefix)
    exact .moved hm hc hI.now.1 hI.now.2 hfree hpast

-- ============================================================== every state

/-- A bridge that was set up runs on a chain. -/
theorem runsOn_invariant : Invariant fun _ b => ∃ chain, b.RunsOn chain := by
  refine .ofBridge ?opened ?kept (fun h => h)
  case opened =>
    intro o
    obtain ⟨settings, -, hb, -⟩ := Bridge.setUp_eq_ok o.success
    rw [hb]
    exact ⟨settings.thisChain, settings, rfl, rfl⟩
  case kept =>
    intro b c sender funds receipt b' r idle handled h
    cases handled with
    | deposit brought told => rw [told.after]; exact h
    | submit told => rw [told.after]; exact h
    | approve told => rw [told.after]; exact h
    | cancel told => rw [told.after]; exact h
    | uncancel told => rw [told.after]; exact h
    | execute asks told => rw [told.after]; exact h
    | administer only told =>
        obtain ⟨-, s, -, hs, -⟩ := told.settings
        exact ⟨s.thisChain, s, hs, rfl⟩

/-- The log of a bridge on a chain is numbered from one up to the next
nonce: each of these nonces leads to one deposit, which has it and stands
under the hash of its own transfer, and each deposit is led to by one
nonce. -/
structure Numbered (b : Bridge) (chain : ChainId) (next : UInt64) : Prop where
  runsOn : b.RunsOn chain
  next_eq : b.nextNonce = some next
  pos : 1 ≤ next.toNat
  /-- The numbers from one up to the next, without a gap. -/
  used : ∀ k, b.depositByNonce.contains k = true ↔
    1 ≤ k.toNat ∧ k.toNat < next.toNat
  /-- Each leads to a deposit with that number, under the deposit's own
  hash. -/
  logged : ∀ k hash, b.depositByNonce.get? k = some hash →
    ∃ d, b.deposits.get? hash = some d ∧ d.nonce = k
      ∧ hash = Transfer.hash ⟨chain, d.destChain, d.srcAccount, d.destAccount,
          d.destToken, d.amount, k⟩
  /-- And no deposit has two. -/
  single : ∀ hash, b.deposits.contains hash = true →
    ∃! k, b.depositByNonce.get? k = some hash

/-- In any state of a run the numbers are dense, and each deposit on record has
exactly one. -/
theorem Run.numbered (r : Run) (hfree : NoCollision r.history.taken) :
    ∃ chain next, Numbered r.last.bridge chain next := by
  obtain ⟨⟨-, next, hnext, hdense⟩, hindexed⟩ :=
    (indexed_invariant.throughout r).now
  have hindexed := hindexed hfree
  obtain ⟨chain, hchain⟩ := (runsOn_invariant.throughout r).now
  refine ⟨chain, next, hchain, hnext, hdense.pos, hdense.used,
    fun k hash hk => ?logged, fun hash hhash => ?single⟩
  case logged =>
    obtain ⟨d, hd, rfl⟩ := hindexed.logged hk
    exact ⟨d, hd, rfl, (r.depositHash_eq_of_runsOn hd hchain).symm⟩
  case single =>
    obtain ⟨d, hd⟩ := Option.isSome_iff_exists.mp hhash
    exact ⟨d.nonce, hindexed.indexed hd, fun k hk => hindexed.nonce_eq hk hd⟩

namespace Numbered

variable {b : Bridge} {chain : ChainId} {next : UInt64}

/-- A question about a nonce is always answered, and finds a deposit
exactly if the nonce is used. -/
theorem depositWithNonce_eq (h : Numbered b chain next) (k : UInt64) :
    ∃ found, b.depositWithNonce k = .ok found
      ∧ (found.isSome = true ↔ 1 ≤ k.toNat ∧ k.toNat < next.toNat) := by
  rw [← h.used]
  unfold Bridge.depositWithNonce Table.contains
  cases hk : b.depositByNonce.get? k with
  | none => exact ⟨none, rfl, Iff.rfl⟩
  | some hash =>
      obtain ⟨d, hd, -, -⟩ := h.logged k hash hk
      refine ⟨some (hash, d), ?_, Iff.rfl⟩
      simp only [hd]

/-- The last nonce is the one before the next, if there is one. -/
theorem lastNonce_eq (h : Numbered b chain next) :
    b.lastNonce = .ok (if next = 1 then none else some (next - 1)) := by
  have hone : (1 : UInt64).toNat = 1 := rfl
  have hpos := h.pos
  unfold Bridge.lastNonce Bridge.loadNextNonce
  rw [h.next_eq]
  show Except.ok (if 1 < next then some (next - 1) else none) = _
  by_cases hn : next = 1
  · subst hn
    rfl
  · have hne : next.toNat ≠ 1 := fun he => hn (UInt64.toNat_inj.mp he)
    rw [if_neg hn, if_pos]
    rw [UInt64.lt_iff_toNat_lt]
    omega

end Numbered

/-- At every moment of a run in which no two buffers of deposits collide,
the log is numbered without gaps. What was on record right after any
request that stands is on record still, unchanged. So a question about a
nonce is always answered, and the last nonce is the one before the next. -/
theorem Run.deposits_numbered (r : Run)
    (hfree : NoCollision r.history.taken) :
    ∃ chain next, Numbered r.last.bridge chain next
      ∧ (∀ t ∈ r.history.committed, ∀ hash d,
          t.after.deposits.get? hash = some d →
          r.last.bridge.deposits.get? hash = some d)
      ∧ (∀ k, ∃ found,
          r.last.ask (.depositByNonce k) = .ok (.deposit found)
            ∧ (found.isSome = true ↔ 1 ≤ k.toNat ∧ k.toNat < next.toNat))
      ∧ r.last.ask .lastNonce
          = .ok (.lastNonce (if next = 1 then none else some (next - 1))) := by
  obtain ⟨chain, next, hnumbered⟩ := r.numbered hfree
  have hstands := r.logStands hfree
  refine ⟨chain, next, hnumbered, fun t ht => hstands.committed ht,
    fun k => ?_, ?_⟩
  · obtain ⟨found, hfound, hsome⟩ := hnumbered.depositWithNonce_eq k
    refine ⟨found, ?_, hsome⟩
    show (r.last.bridge.depositWithNonce k >>= fun found =>
      (pure (Answer.deposit found) : Outcome Answer)) = _
    rw [hfound]
    rfl
  · show (r.last.bridge.lastNonce >>= fun last =>
      (pure (Answer.lastNonce last) : Outcome Answer)) = _
    rw [hnumbered.lastNonce_eq]
    rfl

/-- After one deposit the next nonce is two, and the last one is one. -/
theorem Run.one_deposit_numbered :
    NoCollision Sample.deposited.history.taken
      ∧ ∃ chain, Numbered Sample.deposited.last.bridge chain 2
        ∧ Sample.deposited.last.ask .lastNonce
            = .ok (.lastNonce (some 1)) := by
  refine ⟨Sample.noCollision_deposited, ?_⟩
  obtain ⟨chain, next, hnumbered, -, -, hlast⟩ :=
    Run.deposits_numbered Sample.deposited Sample.noCollision_deposited
  obtain ⟨-, -, hnext, -⟩ := Sample.deposited_state
  rw [hnumbered.next_eq] at hnext
  cases hnext
  exact ⟨chain, hnumbered, hlast⟩

end TokenBridge
