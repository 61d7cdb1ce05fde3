/-
Reviews of different withdrawals can be taken in either order.

An approval, a veto and a reversal read the roles, the settings and the
tokens, which none of them writes, and besides only the record under the
hash they name and whether the claim of that record is held. That record
and that claim are also all they write (`Revision`). So if two of them name
different hashes, and the records they find have different claims, neither
reads what the other writes: on a bridge that one has revised the other
does what it does without, and the revision stays in place (`take_revise`).
The writes of both are under different keys, so their order is lost too.
-/
import TokenBridge.Proofs.ReviewPeriod

namespace TokenBridge

open Outcome

-- ================================================================= revisions

/-- What a review writes: a record under its hash, and whether its claim is
held. -/
structure Revision where
  hash : Word
  record : Withdrawal
  held : Option Unit

/-- The bridge with the record written and its claim held or given up. -/
def Bridge.revise (b : Bridge) (v : Revision) : Bridge :=
  { b with
    withdrawals := b.withdrawals.put v.hash (some v.record)
    claims := b.claims.put v.record.claim v.held }

/-- The record under the bytes that a request names. -/
def Bridge.recordOf (b : Bridge) (bytes : List UInt8) : Option Withdrawal :=
  (Bytes.ofList? 32 bytes).bind b.withdrawals.get?

/-- A revision of another record than the one that a request names, with
another claim. -/
structure Revision.Elsewhere (v : Revision) (b : Bridge)
    (bytes : List UInt8) : Prop where
  hash : v.hash.toList ≠ bytes
  claim : ∀ w, b.recordOf bytes = some w → v.record.claim ≠ w.claim

section

variable {b b' : Bridge} {c : Context} {sender : Address}
  {bytes : List UInt8} {hash : Word} {w : Withdrawal} {u v : Revision}

theorem Bridge.recordOf_toList :
    b.recordOf hash.toList = b.withdrawals.get? hash := by
  unfold recordOf
  rw [Bytes.ofList?_toList]
  rfl

/-- Revisions under two hashes and two claims can change places. -/
theorem Bridge.revise_comm (hashes : u.hash ≠ v.hash)
    (claims : u.record.claim ≠ v.record.claim) :
    (b.revise u).revise v = (b.revise v).revise u := by
  simp only [revise, Table.put_comm _ hashes, Table.put_comm _ claims]

/-- Writing a record and its claim elsewhere can change places with this
one. -/
theorem Bridge.keepClaiming_revise (hashes : v.hash ≠ hash)
    (claims : v.record.claim ≠ w.claim) (marks : Marks) :
    (b.revise v).keepClaiming hash { w with marks }
      = (b.keepClaiming hash { w with marks }).revise v :=
  revise_comm (v := ⟨hash, { w with marks }, some ()⟩) hashes claims

/-- So can writing a record and giving its claim up. -/
theorem Bridge.keepUnclaimed_revise (hashes : v.hash ≠ hash)
    (claims : v.record.claim ≠ w.claim) (marks : Marks) :
    (b.revise v).keepUnclaimed hash { w with marks }
      = (b.keepUnclaimed hash { w with marks }).revise v :=
  revise_comm (v := ⟨hash, { w with marks }, none⟩) hashes claims

/-- A revision elsewhere leaves the record that is loaded. -/
theorem Bridge.loadWithdrawal_revise (hashes : v.hash ≠ hash) :
    (b.revise v).loadWithdrawal hash = b.loadWithdrawal hash := by
  have hsame : (b.revise v).withdrawals.get? hash = b.withdrawals.get? hash := by
    show (b.withdrawals.put v.hash _).get? hash = _
    rw [Table.get?_put, if_neg hashes]
  unfold loadWithdrawal
  rw [hsame]

/-- And it leaves the claim that is checked. -/
theorem Bridge.requireUnclaimed_revise (claims : v.record.claim ≠ w.claim) :
    (b.revise v).requireUnclaimed w = b.requireUnclaimed w := by
  have hsame : (b.revise v).claims.contains w.claim
      = b.claims.contains w.claim := by
    show ((b.claims.put v.record.claim _).get? w.claim).isSome = _
    rw [Table.get?_put, if_neg claims]
    rfl
  unfold requireUnclaimed
  rw [hsame]

-- ================================================================= the rules

/-- The bridge after a request, revised. -/
def revised (v : Revision) (result : Receipt × Bridge) : Receipt × Bridge :=
  (result.1, result.2.revise v)

/-- A rule that names a hash and goes on with the record under it, if it goes
on alike on the revised bridge. -/
theorem Revision.Elsewhere.loading (off : v.Elsewhere b bytes)
    {α : Type} {f g : Word → Withdrawal → Outcome α}
    (same : ∀ hash w, v.hash ≠ hash → v.record.claim ≠ w.claim →
      f hash w = g hash w) :
    (hashOf bytes >>= fun hash =>
        (b.revise v).loadWithdrawal hash >>= fun w => f hash w)
      = hashOf bytes >>= fun hash =>
        b.loadWithdrawal hash >>= fun w => g hash w := by
  refine bind_congr_ok fun hash hhash => ?_
  have hbytes := hashOf_eq_ok_iff.mp hhash
  have hne : v.hash ≠ hash := by
    rintro rfl
    exact off.hash hbytes.symm
  rw [Bridge.loadWithdrawal_revise hne]
  refine bind_congr_ok fun w hw => same hash w hne ?_
  apply off.claim
  rw [hbytes, Bridge.recordOf_toList]
  exact Bridge.loadWithdrawal_eq_ok_iff.mp hw

/-- A veto answers alike before and after a revision elsewhere, and leads to
the same bridge with the revision in it. -/
theorem Bridge.cancel_revise (off : v.Elsewhere b bytes) :
    (b.revise v).cancel c sender bytes
      = (b.cancel c sender bytes).map (revised v) := by
  unfold cancel
  simp only [map_bind]
  refine congrArg (b.requireCanceler sender >>= ·) (funext fun _ => ?_)
  refine off.loading fun hash w hashes claims => ?_
  simp only [keepUnclaimed_revise hashes claims]
  rfl

/-- So does a reversal. -/
theorem Bridge.uncancel_revise (off : v.Elsewhere b bytes) :
    (b.revise v).uncancel c sender bytes
      = (b.uncancel c sender bytes).map (revised v) := by
  unfold uncancel
  simp only [map_bind]
  refine congrArg (b.requireOperator sender >>= ·) (funext fun _ => ?_)
  refine off.loading fun hash w hashes claims => ?_
  simp only [keepClaiming_revise hashes claims,
    requireUnclaimed_revise claims]
  rfl

/-- So does an approval, with a fee or without. -/
theorem Bridge.approve_revise (off : v.Elsewhere b bytes)
    {fee : Option ApprovalFee} :
    (b.revise v).approve c sender bytes fee
      = (b.approve c sender bytes fee).map (revised v) := by
  unfold approve
  cases fee with
  | none =>
      simp only [map_bind]
      refine congrArg (b.requireOperator sender >>= ·) (funext fun _ => ?_)
      refine congrArg (b.loadSettings >>= ·) (funext fun settings => ?_)
      refine off.loading fun hash w hashes claims => ?_
      simp only [requireUnclaimed_revise claims, pure_bind,
        keepClaiming_revise hashes claims]
      rfl
  | some fee =>
      simp only [map_bind]
      refine congrArg (b.requireOperator sender >>= ·) (funext fun _ => ?_)
      refine congrArg (b.loadSettings >>= ·) (funext fun settings => ?_)
      refine off.loading fun hash w hashes claims => ?_
      simp only [requireUnclaimed_revise claims]
      -- the fee is read off the token, and changes nothing of the claim
      refine bind_congr_ok fun _ _ => bind_congr_ok fun _ _ =>
        bind_congr_ok fun _ _ => ?_
      show b.withFee w fee >>= _ = b.withFee w fee >>= _
      refine bind_congr_ok fun charged hcharged => ?_
      have hsame : b.charged w (some fee) = .ok charged := hcharged
      have hclaim : charged.claim = w.claim := by
        rw [charged_eq_ok hsame]
        rfl
      rw [← hclaim] at claims
      simp only [keepClaiming_revise hashes claims]
      rfl

end

-- ============================================================== the requests

/-- The bytes that a request of the review names. -/
def Request.reviewed : Request → Option (List UInt8)
  | .approve hash _ => some hash
  | .cancel hash => some hash
  | .uncancel hash => some hash
  | _ => none

/-- A revision of the record under the bytes that a request names, which
leaves the claim of the record as it is. -/
structure Revision.Answers (v : Revision) (b : Bridge)
    (bytes : List UInt8) : Prop where
  hash : v.hash.toList = bytes
  claim : ∃ w, b.recordOf bytes = some w ∧ v.record.claim = w.claim

/-- A record that keeps its claim answers the request for its hash. -/
theorem Revision.Answers.of_found {b : Bridge} {hash : Word}
    {found record : Withdrawal} (held : Option Unit)
    (hfound : b.withdrawals.get? hash = some found)
    (same : record.claim = found.claim) :
    Answers ⟨hash, record, held⟩ b hash.toList :=
  ⟨rfl, found, Bridge.recordOf_toList.trans hfound, same⟩

/-- An answer to one request is elsewhere for another, when hashes and claims
differ. -/
theorem Revision.Answers.elsewhere {v : Revision} {b : Bridge}
    {bytes bytes' : List UInt8} (h : v.Answers b bytes)
    (hashes : bytes ≠ bytes')
    (claims : ∀ w w', b.recordOf bytes = some w →
      b.recordOf bytes' = some w' → w.claim ≠ w'.claim) :
    v.Elsewhere b bytes' := by
  obtain ⟨hhash, w, hw, hclaim⟩ := h
  refine ⟨?_, fun w' hw' => ?_⟩
  · rw [hhash]
    exact hashes
  · rw [hclaim]
    exact claims w w' hw hw'

/-- Revisions of different records with different claims. -/
theorem Revision.Elsewhere.revise_comm {u v : Revision} {b : Bridge}
    {bytes : List UInt8} (off : u.Elsewhere b bytes)
    (answers : v.Answers b bytes) :
    (b.revise u).revise v = (b.revise v).revise u := by
  obtain ⟨hhash, w, hw, hclaim⟩ := answers
  refine Bridge.revise_comm (fun heq => off.hash ?_) ?_
  · rw [heq, hhash]
  · rw [hclaim]
    exact off.claim w hw

section

variable {b b' : Bridge} {c : Context} {sender : Address}
  {funds : List Coin} {r : Request} {receipt : Receipt}
  {bytes : List UInt8} {v : Revision} (about : r.reviewed = some bytes)

include about

/-- On a bridge that was revised elsewhere, a request of the review has the
same answer, and the revision stays in place. -/
theorem Bridge.take_revise (off : v.Elsewhere b bytes) :
    (b.revise v).take c sender funds r
      = (b.take c sender funds r).map (revised v) := by
  unfold take
  rw [map_bind]
  refine congrArg (b.requireIdle >>= ·) (funext fun _ => ?_)
  cases r with
  | approve hash fee => cases about; exact approve_revise off
  | cancel hash => cases about; exact cancel_revise off
  | uncancel hash => cases about; exact uncancel_revise off
  | _ => cases about

/-- A request of the review that is taken is a revision. -/
theorem Bridge.answers_of_take
    (h : b.take c sender funds r = .ok (receipt, b')) :
    ∃ v : Revision, v.Answers b bytes ∧ b' = b.revise v := by
  obtain ⟨_, -, hhandle⟩ := bind_eq_ok_iff.mp h
  cases r with
  | approve hash fee =>
      cases about
      obtain ⟨⟨-, hash, found, charged, -, -, rfl, hfound, -, -, -, hcharged,
        -, rfl⟩⟩ := approved_of_approve hhandle
      have hclaim : charged.claim = found.claim := by
        rw [charged_eq_ok hcharged]
        rfl
      rw [← hclaim]
      refine ⟨⟨hash, _, some ()⟩, ?_, rfl⟩
      exact .of_found _ hfound hclaim
  | cancel hash =>
      cases about
      obtain ⟨⟨-, hash, found, -, -, rfl, hfound, -, -, -, -, -, rfl⟩⟩ :=
        vetoed_of_cancel hhandle
      refine ⟨⟨hash, _, none⟩, ?_, rfl⟩
      exact .of_found _ hfound rfl
  | uncancel hash =>
      cases about
      obtain ⟨⟨-, hash, found, -, -, rfl, hfound, -, -, -, -, -, rfl⟩⟩ :=
        restored_of_uncancel hhandle
      refine ⟨⟨hash, _, some ()⟩, ?_, rfl⟩
      exact .of_found _ hfound rfl
  | _ => cases about

/-- Nothing of what it sends waits for a report. -/
theorem Bridge.quiet_of_take
    (h : b.take c sender funds r = .ok (receipt, b')) :
    receipt.messages.any Dispatch.isAwaited = false := by
  obtain ⟨v, -, rfl⟩ := answers_of_take about h
  obtain ⟨idle, handled⟩ := handled_of_take h
  exact (handled.awaits_eq idle).trans (congrArg Option.isSome idle)

end

-- =============================================================== the session

/-- The same session with its bridge revised, or as it is. -/
def Session.revise (s : Session) (v : Option Revision) : Session :=
  { s with bridge := v.elim s.bridge s.bridge.revise }

namespace Session

variable {s : Session} {r : Request} {bytes : List UInt8}
  {v : Option Revision}

/-- A request of the review makes one revision or, if it is refused, none, and
it leaves all of the session but the bridge as it was. -/
theorem step_review (s : Session) (about : r.reviewed = some bytes)
    (sender : Address) (funds : List Coin) :
    ∃ v answer, (∀ u ∈ v, u.Answers s.bridge bytes)
      ∧ s.step (.take sender funds r) = (s.revise v, answer) := by
  show ∃ v answer, _ ∧ ((s.take sender funds r).1,
    (s.take sender funds r).2.map Response.receipt) = (s.revise v, answer)
  unfold take
  cases h : s.bridge.take s.context sender funds r with
  | error e => exact ⟨none, .error e, nofun, rfl⟩
  | ok result =>
      obtain ⟨receipt, b⟩ := result
      obtain ⟨v, hanswers, hb⟩ := Bridge.answers_of_take about h
      refine ⟨some v, .ok (.receipt receipt), fun u hu => ?_, ?_⟩
      · rw [← Option.some.inj hu]
        exact hanswers
      · simp only [Bridge.quiet_of_take about h, hb]
        rfl

/-- After revisions elsewhere it does the same, beside the revisions. -/
theorem step_revise (about : r.reviewed = some bytes)
    (off : ∀ u ∈ v, u.Elsewhere s.bridge bytes) (sender : Address)
    (funds : List Coin) :
    (s.revise v).step (.take sender funds r)
      = ((s.step (.take sender funds r)).1.revise v,
        (s.step (.take sender funds r)).2) := by
  cases v with
  | none => rfl
  | some u =>
      have htake : (s.revise (some u)).bridge.take
          (s.revise (some u)).context sender funds r
            = (s.bridge.take s.context sender funds r).map (revised u) :=
        Bridge.take_revise about (off u rfl)
      show (((s.revise (some u)).take sender funds r).1,
          ((s.revise (some u)).take sender funds r).2.map Response.receipt)
        = ((s.take sender funds r).1.revise (some u),
          (s.take sender funds r).2.map Response.receipt)
      unfold take
      rw [htake]
      cases h : s.bridge.take s.context sender funds r with
      | error e => rfl
      | ok result =>
          obtain ⟨receipt, b⟩ := result
          simp only [Except.map, revised, Bridge.quiet_of_take about h]
          rfl

/-- Two revisions that are elsewhere for each other give one session in both
orders, and so does one alone. -/
theorem revise_comm {u v : Option Revision}
    (off : ∀ x ∈ u, x.Elsewhere s.bridge bytes)
    (answers : ∀ y ∈ v, y.Answers s.bridge bytes) :
    (s.revise u).revise v = (s.revise v).revise u := by
  cases u with
  | none => rfl
  | some x =>
      cases v with
      | none => rfl
      | some y =>
          have hbridge := (off x rfl).revise_comm (answers y rfl)
          exact congrArg (fun b => ({ s with bridge := b } : Session)) hbridge

end Session

/-- Two requests of the review that name different hashes, and whose records,
if both are on record, have different claims, can be taken in either order:
each has the same answer whichever comes first, and the session is the same
after both. -/
theorem Session.reviews_commute (s : Session) {r₁ r₂ : Request}
    {bytes₁ bytes₂ : List UInt8} (sender₁ sender₂ : Address)
    (funds₁ funds₂ : List Coin) (about₁ : r₁.reviewed = some bytes₁)
    (about₂ : r₂.reviewed = some bytes₂) (hashes : bytes₁ ≠ bytes₂)
    (claims : ∀ w₁ w₂, s.bridge.recordOf bytes₁ = some w₁ →
      s.bridge.recordOf bytes₂ = some w₂ → w₁.claim ≠ w₂.claim) :
    ∃ after answer₁ answer₂,
      s.run [.take sender₁ funds₁ r₁, .take sender₂ funds₂ r₂]
          = (after, [answer₁, answer₂])
        ∧ s.run [.take sender₂ funds₂ r₂, .take sender₁ funds₁ r₁]
          = (after, [answer₂, answer₁]) := by
  have hrun : ∀ x y, s.run [x, y] = (((s.step x).1.step y).1,
      [(s.step x).2, ((s.step x).1.step y).2]) := fun _ _ => rfl
  obtain ⟨v₁, answer₁, answers₁, h₁⟩ := s.step_review about₁ sender₁ funds₁
  obtain ⟨v₂, answer₂, answers₂, h₂⟩ := s.step_review about₂ sender₂ funds₂
  have off₁ : ∀ u ∈ v₁, u.Elsewhere s.bridge bytes₂ := fun u hu =>
    (answers₁ u hu).elsewhere hashes claims
  have off₂ : ∀ u ∈ v₂, u.Elsewhere s.bridge bytes₁ := fun u hu =>
    (answers₂ u hu).elsewhere hashes.symm fun w₂ w₁ hw₂ hw₁ =>
      (claims w₁ w₂ hw₁ hw₂).symm
  have hsecond := step_revise about₂ off₁ sender₂ funds₂
  have hfirst := step_revise about₁ off₂ sender₁ funds₁
  refine ⟨(s.revise v₁).revise v₂, answer₁, answer₂, ?_, ?_⟩
  · rw [hrun, h₁, hsecond, h₂, revise_comm off₁ answers₂]
  · rw [hrun, h₂, hfirst, h₁]

namespace Sample

/-- Another transfer of the user, alike but for its nonce. -/
def second : Withdrawal := { record with nonce := 2 }

/-- The hash of the second transfer. -/
def secondHash : Word :=
  ⟨[106, 170, 215, 98, 137, 207, 70, 126, 76, 91, 26, 218, 2, 182, 59, 74, 12,
    167, 31, 105, 22, 64, 77, 17, 186, 240, 236, 185, 40, 233, 115, 22], rfl⟩

/-- The session with both withdrawals on record. -/
def bothRecorded : Session :=
  { recorded with
    bridge :=
      { recorded.bridge with
        withdrawals :=
          recorded.bridge.withdrawals.insert secondHash second } }

/-- The approval of the second withdrawal. -/
def secondApproval : Session.Step :=
  .take "operator" [] (.approve secondHash.toList none)

theorem recordOf_bothRecorded :
    bothRecorded.bridge.recordOf hash.toList = some record
      ∧ bothRecorded.bridge.recordOf secondHash.toList = some second := by
  rw [Bridge.recordOf_toList, Bridge.recordOf_toList]
  decide +kernel

end Sample

/-- Two withdrawals with a nonce each are approved in either order. -/
theorem Session.approvals_commute :
    ∃ after answer₁ answer₂,
      Sample.bothRecorded.run [Sample.approval, Sample.secondApproval]
          = (after, [.ok answer₁, .ok answer₂])
        ∧ Sample.bothRecorded.run [Sample.secondApproval, Sample.approval]
          = (after, [.ok answer₂, .ok answer₁]) := by
  have hclaims : ∀ w₁ w₂,
      Sample.bothRecorded.bridge.recordOf Sample.hash.toList = some w₁ →
      Sample.bothRecorded.bridge.recordOf Sample.secondHash.toList
        = some w₂ → w₁.claim ≠ w₂.claim := by
    obtain ⟨hfirst, hsecond⟩ := Sample.recordOf_bothRecorded
    rw [hfirst, hsecond]
    intro w₁ w₂ h₁ h₂
    rw [← Option.some.inj h₁, ← Option.some.inj h₂]
    decide +kernel
  have habout : ∀ bytes, (Request.approve bytes none).reviewed = some bytes :=
    fun _ => rfl
  obtain ⟨after, answer₁, answer₂, hforth, hback⟩ :=
    Session.reviews_commute Sample.bothRecorded "operator" "operator" [] []
      (habout Sample.hash.toList) (habout Sample.secondHash.toList)
      (by decide +kernel) hclaims
  have haccepted : ∀ answer ∈ (Sample.bothRecorded.run
      [Sample.approval, Sample.secondApproval]).2, answer.isOk = true := by
    decide +kernel
  change Sample.bothRecorded.run [Sample.approval, Sample.secondApproval] = _
    at hforth
  rw [hforth] at haccepted
  cases answer₁ with
  | error e => cases haccepted _ List.mem_cons_self
  | ok response₁ =>
      cases answer₂ with
      | error e =>
          cases haccepted _ (List.mem_cons_of_mem _ List.mem_cons_self)
      | ok response₂ => exact ⟨after, response₁, response₂, hforth, hback⟩

end TokenBridge
