/-
Two bridges and a reviewer between them create no value.

One bridge takes deposits towards the other, and the other pays them out.
They share nothing: each runs on its own chain, step by step in any order,
and all that ties them is that an operator approves a withdrawal only when
the reviewer, asking the log of the first bridge that stands, finds it
valid. A verdict holds for good: the log only grows, and of a withdrawal
the rules never change what was compared. So behind every payout stands
the deposit under its hash, and no deposit stands behind two.
-/
import TokenBridge.Proofs.DepositLog
import TokenBridge.Proofs.ReviewPeriod
import TokenBridge.Proofs.Verdict

namespace TokenBridge

-- ============================================================= the reviewer

/-- A deposit as its chain reports it, field by field. -/
def Deposit.evidence (d : Deposit) (hash : Word) : Reviewer.Evidence where
  hash := hash
  destChain := d.destChain
  srcAccount := d.srcAccount
  destAccount := d.destAccount
  token := d.destToken
  amount := d.amount
  nonce := d.nonce
  version := .unified

/-- A source that serves a log. -/
def Reviewer.sourceOf (log : Table Word Deposit) : Reviewer.Source :=
  fun hash => match log.get? hash with
    | some d => .found (d.evidence hash)
    | none => .absent

/-- A withdrawal as the reviewer of its chain sees it. -/
def Withdrawal.sighting (w : Withdrawal) (hash : Word) (chain : ChainId) :
    Reviewer.Sighting :=
  ⟨hash, w.transfer chain, w.marks.approvedAt⟩

/-- A deposit and a withdrawal are the two ends of one transfer to a
chain. -/
structure Backs (chain : ChainId) (d : Deposit) (w : Withdrawal) : Prop where
  destChain : d.destChain = chain
  srcAccount : d.srcAccount = w.srcAccount
  destAccount : d.destAccount = w.destAccount
  token : d.destToken = tokenWord w.token
  amount : d.amount = w.amount
  nonce : d.nonce = w.nonce

theorem Backs.remark {chain : ChainId} {d : Deposit} {w : Withdrawal}
    (h : Backs chain d w) (marks : Marks) :
    Backs chain d { w with marks } :=
  ⟨h.destChain, h.srcAccount, h.destAccount, h.token, h.amount, h.nonce⟩

/-- Evidence has no mismatch exactly if it agrees in every field. -/
theorem Deposit.mismatch_eq_none_iff {d : Deposit} {w : Withdrawal}
    {hash : Word} {chain : ChainId} :
    (d.evidence hash).mismatch? (w.sighting hash chain) = none ↔
      Backs chain d w := by
  rw [Reviewer.Evidence.mismatch_eq_none_iff]
  constructor
  · intro h
    exact ⟨h.destChain, h.srcAccount, h.destAccount, h.token, h.amount,
      h.nonce⟩
  · intro h
    exact ⟨rfl, rfl, h.destChain, h.srcAccount, h.destAccount, h.token,
      h.amount, h.nonce⟩

/-- A withdrawal is without fault when it is of this chain and under its own
hash. -/
theorem Withdrawal.fault_eq_none_iff {w : Withdrawal} {hash : Word}
    {chain thisChain : ChainId} :
    (w.sighting hash chain).fault? thisChain = none ↔
      chain = thisChain ∧ (w.transfer chain).hash = hash := by
  rw [Reviewer.Sighting.fault_eq_none_iff]
  constructor
  · intro h
    exact ⟨h.destChain, h.hash.symm⟩
  · intro ⟨hchain, hhash⟩
    exact ⟨hchain, hhash.symm⟩

/-- What it means that a reviewer finds a withdrawal valid, if its source
serves a log: it is for the reviewer's chain, its hash is its own, and the
log has its deposit. -/
theorem Reviewer.verify_eq_valid_iff {r : Reviewer}
    {log : Table Word Deposit} {w : Withdrawal} {hash : Word}
    {chain : ChainId}
    (hsource : r.sources.get? w.srcChain = some (sourceOf log)) :
    (r.verify (w.sighting hash chain)).1 = .valid ↔
      (chain = r.config.thisChain ∧ (w.transfer chain).hash = hash)
        ∧ ∃ d, log.get? hash = some d ∧ Backs chain d w := by
  have hsrc : (w.sighting hash chain).transfer.srcChain = w.srcChain := rfl
  unfold verify
  cases hfault : (w.sighting hash chain).fault? r.config.thisChain with
  | some reason =>
      constructor
      · exact nofun
      · rintro ⟨hown, -⟩
        rw [Withdrawal.fault_eq_none_iff.mpr hown] at hfault
        cases hfault
  | none =>
      rw [hsrc, hsource]
      show (w.sighting hash chain).judge (sourceOf log hash) = .valid ↔ _
      rw [and_iff_right (Withdrawal.fault_eq_none_iff.mp hfault)]
      unfold sourceOf
      cases log.get? hash with
      | none =>
          refine ⟨nofun, ?_⟩
          rintro ⟨d, hd, -⟩
          cases hd
      | some d =>
          apply judge_found_eq_valid_iff.trans
          rw [Deposit.mismatch_eq_none_iff]
          constructor
          · exact fun hbacks => ⟨d, rfl, hbacks⟩
          · rintro ⟨d', hd, hbacks⟩
            cases hd
            exact hbacks

-- ========================================================== what is on file

/-- Each withdrawal stands under the hash of its transfer. -/
def Filed (b : Bridge) : Prop :=
  ∀ hash w, b.withdrawals.get? hash = some w →
    ∃ s, b.settings = some s ∧ hash = (w.transfer s.thisChain).hash

/-- Writing a withdrawal of the transfer that its hash stands for. -/
theorem Filed.write {b b' : Bridge} {s : Settings} {hash : Word}
    {w : Withdrawal} (h : Filed b) (hs : b.settings = some s)
    (hsettings : b'.settings = b.settings)
    (hwritten : b'.withdrawals = b.withdrawals.insert hash w)
    (hhash : hash = (w.transfer s.thisChain).hash) : Filed b' := by
  intro hash' w' hw'
  rw [hwritten, Table.get?_insert] at hw'
  rw [hsettings]
  by_cases hk : hash = hash'
  · rw [if_pos hk] at hw'
    cases hw'
    exact ⟨s, hs, hk.symm.trans hhash⟩
  · rw [if_neg hk] at hw'
    exact h hash' w' hw'

/-- Writing over a withdrawal of the same transfer. -/
theorem Filed.rewrite {b b' : Bridge} {hash : Word} {w w' : Withdrawal}
    (h : Filed b) (hsettings : b'.settings = b.settings)
    (hwritten : b'.withdrawals = b.withdrawals.insert hash w')
    (hw : b.withdrawals.get? hash = some w)
    (hsame : ∀ chain, w'.transfer chain = w.transfer chain) : Filed b' := by
  obtain ⟨s, hs, hhash⟩ := h hash w hw
  apply h.write hs hsettings hwritten
  rw [hsame]
  exact hhash

/-- No rule changes the transfer of a withdrawal, nor the chain. -/
theorem filed_invariant : Invariant fun _ => Filed := by
  refine .ofBridge ?opened ?kept (fun h => h)
  case opened =>
    intro o hash w hw
    obtain ⟨settings, -, hb, -⟩ := Bridge.setUp_eq_ok o.success
    rw [hb] at hw
    exact absurd (hw.symm.trans (Table.get?_empty hash)) nofun
  case kept =>
    intro b c sender funds receipt b' r idle handled h
    cases handled with
    | deposit brought told => rw [told.after]; exact h
    | submit told =>
        exact h.write told.settings_eq (by rw [told.after])
          (congrArg Bridge.withdrawals told.after :) told.hash_eq
    | approve told =>
        refine h.rewrite (by rw [told.after])
          (congrArg Bridge.withdrawals told.after :) told.found_eq
          fun chain => ?_
        rw [Bridge.charged_eq_ok told.charged_eq]
        rfl
    | cancel told =>
        exact h.rewrite (by rw [told.after])
          (congrArg Bridge.withdrawals told.after :) told.found_eq
          fun _ => rfl
    | uncancel told =>
        exact h.rewrite (by rw [told.after])
          (congrArg Bridge.withdrawals told.after :) told.found_eq
          fun _ => rfl
    | execute asks told =>
        exact h.rewrite (by rw [told.after])
          (congrArg Bridge.withdrawals told.after :) told.found_eq
          fun _ => rfl
    | administer only told =>
        intro hash w hw
        have hrecords : b'.withdrawals = b.withdrawals := by rw [told.frame]
        rw [hrecords] at hw
        obtain ⟨s, hs, hhash⟩ := h hash w hw
        obtain ⟨s', hs', hmoved⟩ := told.settings_of hs
        exact ⟨s', hs', by rw [hmoved.thisChain]; exact hhash⟩

-- ========================================================= the interleaving

/-- A bridge runs on a chain. -/
def Bridge.RunsOn (b : Bridge) (chain : ChainId) : Prop :=
  ∃ s, b.settings = some s ∧ s.thisChain = chain

/-- A bridge whose settings name the chain runs on it. -/
theorem Bridge.RunsOn.of_thisChain {b : Bridge} {chain : ChainId}
    (h : b.settings.map (·.thisChain) = some chain) : b.RunsOn chain :=
  Option.map_eq_some_iff.mp h

/-- So a bridge never faults by itself what it has on record. -/
theorem Run.hash_eq_of_runsOn (r : Run) {hash : Word} {w : Withdrawal}
    {chain : ChainId} (hw : r.last.bridge.withdrawals.get? hash = some w)
    (hchain : r.last.bridge.RunsOn chain) : (w.transfer chain).hash = hash := by
  obtain ⟨s, hs, hhash⟩ := (filed_invariant.throughout r).now hash w hw
  obtain ⟨s', hs', hthis⟩ := hchain
  rw [hs] at hs'
  cases hs'
  rw [← hthis]
  exact hhash.symm

/-- A deposit on record is under the hash of its own transfer. -/
theorem Run.depositHash_eq_of_runsOn (r : Run) {hash : Word} {d : Deposit}
    {chain : ChainId} (hd : r.last.bridge.deposits.get? hash = some d)
    (hchain : r.last.bridge.RunsOn chain) : (d.transfer chain).hash = hash := by
  obtain ⟨s, n, hs, -, hhash, -⟩ :=
    (logSound_invariant.throughout r).now hash d hd
  obtain ⟨s', hs', hthis⟩ := hchain
  rw [hs] at hs'
  cases hs'
  rw [← hthis]
  exact hhash.symm

/-- A reviewer of a chain, with the log of the run there as its source for
the other chain, finds a withdrawal valid. -/
def Confirmed (a b : ChainId) (there : Run) (hash : Word) (w : Withdrawal) :
    Prop :=
  ∃ r : Reviewer, r.config.thisChain = b
    ∧ r.sources.get? a = some (Reviewer.sourceOf there.last.committedLog)
    ∧ (r.verify (w.sighting hash b)).1 = .valid

/-- If a step of the run here approves a withdrawal from the chain there,
the reviewer confirms it. -/
def Reviewed (a b : ChainId) (there here : Run) (x : Session.Step) : Prop :=
  ∀ t hash fee w, here.last.takenBy x = some t →
    t.request = .approve hash.toList fee →
    here.last.bridge.withdrawals.get? hash = some w → w.srcChain = a →
    Confirmed a b there hash w

/-- A step asks for an approval. -/
def Session.Step.asksApproval : Session.Step → Bool
  | .take _ _ (.approve _ _) => true
  | _ => false

/-- A reviewer has a say in approvals only. -/
theorem Reviewed.of_not_approval {a b : ChainId} {there here : Run}
    {x : Session.Step} (hx : x.asksApproval = false) :
    Reviewed a b there here x := by
  intro t hash fee w htaken hrequest
  cases x with
  | take sender funds request =>
      rw [Session.request_of_takenBy htaken] at hrequest
      rw [hrequest] at hx
      cases hx
  | _ => cases htaken

/-- Two runs, on a chain there and a chain here, that go on in any order,
with every approval here reviewed. -/
inductive Linked (a b : ChainId) : Run → Run → Prop
  | opened {o o' : Opening} (there : o.bridge.RunsOn a)
      (here : o'.bridge.RunsOn b) : Linked a b (.fresh o) (.fresh o')
  /-- A step there is under no condition. -/
  | there {r r' : Run} (h : Linked a b r r') (x : Session.Step)
      (hx : ∀ setup, x ≠ .setUp setup) : Linked a b (r.extend x hx) r'
  /-- A step here that approves a withdrawal from there was reviewed. -/
  | here {r r' : Run} (h : Linked a b r r') (x : Session.Step)
      (hx : ∀ setup, x ≠ .setUp setup) (reviewed : Reviewed a b r r' x) :
      Linked a b r (r'.extend x hx)

-- =========================================================== what is backed

/-- Behind every approved withdrawal from a chain stands the deposit under
its hash. -/
def Backed (a b : ChainId) (log : Table Word Deposit)
    (withdrawals : Table Word Withdrawal) : Prop :=
  ∀ hash w, withdrawals.get? hash = some w → w.marks.approved = true →
    w.srcChain = a → ∃ d, log.get? hash = some d ∧ Backs b d w

namespace Backed

variable {a b : ChainId} {log log' : Table Word Deposit}
  {withdrawals : Table Word Withdrawal}

theorem empty : Backed a b log Table.empty := by
  intro hash w hw
  rw [Table.get?_empty] at hw
  cases hw

theorem mono (h : Backed a b log withdrawals) (hle : LogLe log log') :
    Backed a b log' withdrawals := by
  intro hash w hw happroved hsrc
  obtain ⟨d, hd, hbacks⟩ := h hash w hw happroved hsrc
  exact ⟨d, hle hash d hd, hbacks⟩

/-- A record that is written needs backing of its own only if it is approved
and from there. -/
theorem insert (h : Backed a b log withdrawals) (hash : Word)
    {w : Withdrawal} (hw : w.marks.approved = true → w.srcChain = a →
      ∃ d, log.get? hash = some d ∧ Backs b d w) :
    Backed a b log (withdrawals.insert hash w) := by
  intro hash' w' hw'
  rw [Table.get?_insert] at hw'
  by_cases hk : hash = hash'
  · subst hk
    rw [if_pos rfl] at hw'
    cases hw'
    exact hw
  · rw [if_neg hk] at hw'
    exact h hash' w' hw'

/-- New marks on a withdrawal that was approved before. -/
theorem remark (h : Backed a b log withdrawals) {hash : Word}
    {w : Withdrawal} (hw : withdrawals.get? hash = some w) (marks : Marks)
    (hsame : marks.approved = w.marks.approved) :
    Backed a b log (withdrawals.insert hash { w with marks }) := by
  apply h.insert
  intro happroved hsrc
  obtain ⟨d, hd, hbacks⟩ := h hash w hw (hsame.symm.trans happroved) hsrc
  exact ⟨d, hd, hbacks.remark marks⟩

/-- A request keeps what is backed, if what it approves is. -/
theorem taken {t : Taken}
    (h : Backed a b log t.before.bridge.withdrawals)
    (happrove : ∀ hash fee w, t.request = .approve hash.toList fee →
      t.before.bridge.withdrawals.get? hash = some w → w.srcChain = a →
      ∃ d, log.get? hash = some d ∧ Backs b d w) :
    Backed a b log t.after.withdrawals := by
  have handled := t.handled
  generalize hr : t.request = r at handled
  cases handled with
  | deposit brought told => rw [told.after]; exact h
  | submit told =>
      rw [told.after]
      apply h.insert
      rw [told.record_eq]
      exact nofun
  -- the fee that an approval puts on is in none of the fields that a deposit
  -- backs
  | @approve bytes fee told =>
      rw [told.after]
      apply h.insert
      intro _ hsrc
      have hsame := Bridge.charged_eq_ok told.charged_eq
      have hrequest : t.request = .approve told.hash.toList fee := by
        rw [hr]
        exact congrArg (Request.approve · fee) told.bytes_eq
      obtain ⟨d, hd, hbacks⟩ := happrove told.hash fee told.found hrequest
        told.found_eq (by rw [← hsrc, hsame])
      refine ⟨d, hd, ?_⟩
      rw [hsame]
      exact ⟨hbacks.destChain, hbacks.srcAccount, hbacks.destAccount,
        hbacks.token, hbacks.amount, hbacks.nonce⟩
  | cancel told =>
      rw [told.after]
      exact h.remark told.found_eq _ rfl
  | uncancel told =>
      rw [told.after]
      exact h.remark told.found_eq _ rfl
  | execute asks told =>
      rw [told.after]
      exact h.remark told.found_eq _ rfl
  | administer only told => rw [told.frame]; exact h

/-- So does every move, also for the state it may fall back to. -/
theorem moved {s s' : Session} {h h' : History} (hm : Moved s h s' h')
    (hnow : Backed a b log s.bridge.withdrawals)
    (hfall : ∀ c, s.checkpoint = some c → Backed a b log c.withdrawals)
    (happrove : ∀ t hash fee w, h'.taken = h.taken ++ [t] →
      t.request = .approve hash.toList fee →
      s.bridge.withdrawals.get? hash = some w → w.srcChain = a →
      ∃ d, log.get? hash = some d ∧ Backs b d w) :
    Backed a b log s'.bridge.withdrawals
      ∧ ∀ c, s'.checkpoint = some c → Backed a b log c.withdrawals := by
  cases hm with
  | still bridge checkpoint =>
      rw [bridge, checkpoint]
      exact ⟨hnow, hfall⟩
  | migrated => exact ⟨hnow, hfall⟩
  | took t before =>
      subst before
      refine ⟨hnow.taken fun hash fee w => happrove t hash fee w
        (h.taken_take t), fun c hc => ?_⟩
      cases ha : t.receipt.awaits with
      | true =>
          rw [ha, if_pos rfl] at hc
          cases hc
          exact hnow
      | false =>
          rw [ha, if_neg Bool.false_ne_true] at hc
          exact hfall c hc
  | accepted flying => exact ⟨hnow, fun c hc => (by cases hc)⟩
  | refused =>
      refine ⟨?_, fun c hc => (by cases hc)⟩
      show Backed a b log (s.checkpoint.getD s.bridge).withdrawals
      cases hb : s.checkpoint with
      | none => exact hnow
      | some c => exact hfall c hb

end Backed

-- ============================================================= both bridges

variable {a b : ChainId} {r r' : Run}

/-- Whatever the order of the steps, the log that stands there backs every
approved withdrawal here, also in the state that a refused report would
bring back. -/
theorem Linked.backed (h : Linked a b r r')
    (hfree : NoCollision r.history.taken) :
    Backed a b r.last.committedLog r'.last.bridge.withdrawals
      ∧ ∀ c, r'.last.checkpoint = some c →
        Backed a b r.last.committedLog c.withdrawals := by
  induction h with
  | @opened o o' there here =>
      obtain ⟨settings, -, hb, -⟩ := Bridge.setUp_eq_ok o'.success
      refine ⟨?_, fun c hc => (by cases hc)⟩
      show Backed a b _ o'.bridge.withdrawals
      rw [hb]
      exact .empty
  | @there r r' h x hx ih =>
      have hle := r.log_le_extend x hx hfree
      obtain ⟨new, hnew⟩ := (r.moved x hx).taken_append
      obtain ⟨hnow, hfall⟩ := ih (by rw [hnew] at hfree; exact hfree.prefix)
      exact ⟨hnow.mono hle, fun c hc => (hfall c hc).mono hle⟩
  | @here r r' h x hx reviewed ih =>
      obtain ⟨hnow, hfall⟩ := ih hfree
      apply Backed.moved (r'.moved x hx) hnow hfall
      intro t hash fee w htaken hrequest hw hsrc
      rw [r'.history_extend, History.taken_note] at htaken
      have ht : r'.last.takenBy x = some t :=
        Option.toList_eq_singleton_iff.mp (List.append_cancel_left htaken)
      obtain ⟨v, -, hsource, hvalid⟩ :=
        reviewed t hash fee w ht hrequest hw hsrc
      rw [← hsrc] at hsource
      exact ((Reviewer.verify_eq_valid_iff hsource).mp hvalid).2

/-- A withdrawal from a chain that was paid. -/
structure PaidFrom (a : ChainId) (b : Bridge) (hash : Word)
    (w : Withdrawal) : Prop where
  found : b.withdrawals.get? hash = some w
  executed : w.marks.executed = true
  source : w.srcChain = a

-- ======================================================== a sample transfer

namespace Sample

/-- The bridge there, with a chain and a coin that it locks. -/
def readyThere : Run :=
  Run.fresh (opening thereChain (by decide +kernel))
    |>.extend (.take "admin" []
        (.registerChain "here" hereChain.toList)) nofun
    |>.extend (.take "admin" [] (.addToken "uluna" true .lockUnlock 6)) nofun
    |>.extend (.take "admin" []
        (.setCounterpart "uluna" hereChain.toList token.toList 6)) nofun

/-- A deposit of a thousand, of which five are the fee. -/
def deposited : Run :=
  readyThere.extend
    (.take user [⟨"uluna", ⟨1000, by decide⟩⟩]
      (.depositNative hereChain.toList account.toList)) nofun

/-- What the deposit puts on record. -/
def deposit : Deposit where
  nonce := 1
  srcAccount := account
  destChain := hereChain
  destAccount := account
  destToken := token
  token := "uluna"
  amount := amount
  fee := ⟨5, by decide⟩
  timestamp := 1000

/-- The bridge there after the deposit, which waits for no report. -/
theorem deposited_state :
    deposited.last.checkpoint = none
      ∧ deposited.last.bridge.deposits.values = [deposit]
      ∧ deposited.last.bridge.nextNonce = some 2
      ∧ deposited.last.bridge.lockedBalance "uluna" = amount
      ∧ (deposited.last.bridge.tokens.get? "uluna").map Token.kind
        = some .lockUnlock
      ∧ deposited.last.bridge.settings.map (·.thisChain) = some thereChain
      ∧ deposited.history.taken.flatMap Taken.buffers
        = [(deposit.transfer thereChain).preimage] := by
  decide +kernel

/-- One buffer collides with no other. -/
theorem noCollision_deposited : NoCollision deposited.history.taken := by
  obtain ⟨-, -, -, -, -, -, hbuffers⟩ := deposited_state
  unfold NoCollision
  rw [hbuffers]
  intro p hp q hq _
  rw [List.mem_singleton.mp hp, List.mem_singleton.mp hq]

/-- The record agrees with the deposit in every field. -/
theorem backs_record : Backs hereChain deposit record :=
  ⟨rfl, rfl, rfl, tokenWord_mint.symm, rfl, rfl⟩

theorem get?_submitted :
    submitted.last.bridge.withdrawals.get? hash = some record := by
  rw [last_submitted]
  exact Table.get?_insert_self _ _ _

/-- The deposit and the withdrawal are one transfer. -/
theorem transfer_deposit :
    deposit.transfer thereChain = record.transfer hereChain := by
  unfold Deposit.transfer Withdrawal.transfer
  rw [backs_record.token]
  rfl

/-- So the deposit stands under the hash of the withdrawal. -/
theorem get?_deposited :
    deposited.last.committedLog.get? hash = some deposit := by
  obtain ⟨hsettled, hvalues, -, -, -, hchain, -⟩ := deposited_state
  have hmem : deposit ∈ deposited.last.committedLog.values := by
    rw [Session.committedLog_of_settled hsettled, hvalues]
    exact List.mem_singleton_self deposit
  obtain ⟨⟨key, d⟩, hentry, hd⟩ := List.mem_map.mp hmem
  have hd : d = deposit := hd
  subst hd
  have hget := Table.get?_eq_some_iff.mpr hentry
  have hkey := deposited.depositHash_eq_of_runsOn
    (deposited.log_ahead noCollision_deposited key deposit hget)
    (.of_thisChain hchain)
  rw [transfer_deposit, hash_record] at hkey
  rw [hkey]
  exact hget

/-- A reviewer that asks the log there finds the withdrawal valid. -/
theorem confirmed : Confirmed thereChain hereChain deposited hash record := by
  refine ⟨⟨⟨hereChain, 15, "canceler"⟩, Table.empty.insert thereChain
    (Reviewer.sourceOf deposited.last.committedLog), 0⟩, rfl,
    Table.get?_insert_self _ _ _, ?_⟩
  apply (Reviewer.verify_eq_valid_iff (Table.get?_insert_self _ _ _)).mpr
  exact ⟨⟨rfl, hash_record⟩, deposit, get?_deposited, backs_record⟩

/-- The approval is of a record that a deposit backs. -/
theorem reviewed_approval :
    Reviewed thereChain hereChain deposited submitted approval := by
  intro t key fee w htaken hrequest hw _
  rw [Session.request_of_takenBy htaken] at hrequest
  have hkey : hash = key := Bytes.ext (Request.approve.inj hrequest).1
  rw [← hkey, get?_submitted] at hw
  rw [← hkey, ← Option.some.inj hw]
  exact confirmed

/-- The deposit is made there, and then the withdrawal is paid here. -/
theorem linked :
    Linked thereChain hereChain deposited paid := by
  have hopened : Linked thereChain hereChain
      (Run.fresh (opening thereChain (by decide +kernel)))
      (Run.fresh (opening hereChain (by decide +kernel))) :=
    .opened (.of_thisChain (by decide +kernel))
      (.of_thisChain (by decide +kernel))
  have hthere : Linked thereChain hereChain deposited
      (Run.fresh (opening hereChain (by decide +kernel))) :=
    .there (.there (.there (.there hopened _ _) _ _) _ _) _ _
  have hready : Linked thereChain hereChain deposited ready :=
    .here (.here (.here (.here hthere _ _ (.of_not_approval rfl)) _ _
      (.of_not_approval rfl)) _ _ (.of_not_approval rfl)) _ _
      (.of_not_approval rfl)
  have happroved : Linked thereChain hereChain deposited approved :=
    .here (.here hready _ _ (.of_not_approval rfl)) _ _ reviewed_approval
  exact .here (.here happroved _ _ (.of_not_approval rfl)) _ _
    (.of_not_approval rfl)

/-- The payout is of a withdrawal from there. -/
theorem paidFrom :
    ∃ w, PaidFrom thereChain paid.last.bridge hash w := by
  have hmarks : (paid.last.bridge.withdrawals.get? hash).map
      (fun w => (w.marks.executed, w.srcChain)) = some (true, thereChain) := by
    unfold paid
    rw [Run.last_extend, last_reviewed]
    decide +kernel
  obtain ⟨w, hw, hpaid⟩ := Option.map_eq_some_iff.mp hmarks
  exact ⟨w, hw, congrArg Prod.fst hpaid, congrArg Prod.snd hpaid⟩

end Sample

-- ============================================================= every moment

/-- At every moment of two runs, in any order of their steps, if no two
buffers of deposits collide and every approval of a withdrawal from there
is confirmed by the reviewer: behind each such withdrawal that is paid here
stands a deposit there, under the same hash and equal in every field, and
none stands behind two. So no more is paid here than was deposited there
for here. -/
theorem Linked.no_value_created (h : Linked a b r r')
    (hfree : NoCollision r.history.taken) :
    (∀ hash w, PaidFrom a r'.last.bridge hash w →
        ∃ d, r.last.committedLog.get? hash = some d ∧ Backs b d w)
      ∧ (∀ hash₁ w₁ d₁ hash₂ w₂ d₂,
          PaidFrom a r'.last.bridge hash₁ w₁ →
          PaidFrom a r'.last.bridge hash₂ w₂ →
          r.last.committedLog.get? hash₁ = some d₁ →
          r.last.committedLog.get? hash₂ = some d₂ →
          d₁.nonce = d₂.nonce → hash₁ = hash₂)
      ∧ r'.last.bridge.withdrawals.total (fun w =>
          if w.marks.executed && decide (w.srcChain = a)
            then w.amount.toNat else 0)
        ≤ r.last.committedLog.total (fun d =>
          if d.destChain = b then d.amount.toNat else 0) := by
  obtain ⟨hmarks, hclaimed⟩ := (claimed_invariant.throughout r').now
  have hlive : ∀ {hash w}, PaidFrom a r'.last.bridge hash w →
      w.marks.live = true :=
    fun hpaid => (hmarks _ _ hpaid.found).live_of_executed hpaid.executed
  have hbacked : ∀ hash w, PaidFrom a r'.last.bridge hash w →
      ∃ d, r.last.committedLog.get? hash = some d ∧ Backs b d w := by
    intro hash w hpaid
    have happroved := (Marks.live_iff.mp (hlive hpaid)).1
    exact (h.backed hfree).1 hash w hpaid.found happroved hpaid.source
  -- a deposit has the nonce of what it backs
  have hnonce : ∀ {hash w d}, PaidFrom a r'.last.bridge hash w →
      r.last.committedLog.get? hash = some d → d.nonce = w.nonce := by
    intro hash w d hpaid hd
    obtain ⟨d', hd', hbacks⟩ := hbacked hash w hpaid
    rw [hd] at hd'
    cases hd'
    exact hbacks.nonce
  refine ⟨hbacked, ?_, ?_⟩
  -- one nonce is one claim, and a claim has one live record
  · intro hash₁ w₁ d₁ hash₂ w₂ d₂ hpaid₁ hpaid₂ hd₁ hd₂ hsame
    have hclaim : w₂.claim = w₁.claim := by
      unfold Withdrawal.claim
      rw [hpaid₁.source, hpaid₂.source, ← hnonce hpaid₁ hd₁,
        ← hnonce hpaid₂ hd₂, hsame]
    exact hclaimed.sole ⟨w₁, hpaid₁.found, hlive hpaid₁, rfl⟩
      ⟨w₂, hpaid₂.found, hlive hpaid₂, hclaim⟩
  -- each withdrawal that is paid is matched with the deposit under its hash
  · apply Table.total_le_total
    intro hash w hw
    split
    next hcounts =>
      rw [Bool.and_eq_true, decide_eq_true_eq] at hcounts
      obtain ⟨d, hd, hbacks⟩ := hbacked hash w ⟨hw, hcounts.1, hcounts.2⟩
      apply Nat.le_of_eq
      rw [Table.share_of_get? _ hd, if_pos hbacks.destChain, hbacks.amount]
    next => exact Nat.zero_le _

/-- A withdrawal is paid, and its deposit is there. -/
theorem Linked.deposit_paid_out :
    ∃ (r r' : Run) (w : Withdrawal) (d : Deposit),
      Linked Sample.thereChain Sample.hereChain r r'
        ∧ PaidFrom Sample.thereChain r'.last.bridge Sample.hash w
        ∧ r.last.committedLog.get? Sample.hash = some d
        ∧ d.amount = w.amount := by
  obtain ⟨w, hpaid⟩ := Sample.paidFrom
  obtain ⟨hbacked, -, -⟩ :=
    Linked.no_value_created Sample.linked Sample.noCollision_deposited
  obtain ⟨d, hd, hbacks⟩ := hbacked Sample.hash w hpaid
  exact ⟨_, _, w, d, Sample.linked, hpaid, hd, hbacks.amount⟩

end TokenBridge
