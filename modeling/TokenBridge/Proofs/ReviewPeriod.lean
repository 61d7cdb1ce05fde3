/-
No payout before its review window has run.

The marks of a withdrawal say that it is live and since when; the history
says who made it so. `ReviewKnown` ties the two: behind every live
withdrawal stands the last request that began its review, made by an
operator at the very time the marks give, and nothing has vetoed it since.
A payout reads the marks only, and compares times with an addition that
saturates; as the clock ends long before that, the comparison is the one of
natural numbers.
-/
import TokenBridge.Proofs.Claims

namespace TokenBridge

-- ============================================================= the requests

/-- The hash whose review a request begins, or begins anew. -/
def Request.reviewOf : Request → Option (List UInt8)
  | .approve hash _ => some hash
  | .uncancel hash => some hash
  | _ => none

/-- The hash that a request vetoes. -/
def Request.vetoOf : Request → Option (List UInt8)
  | .cancel hash => some hash
  | _ => none

/-- A request neither begins the review under a hash nor vetoes it. -/
structure Request.Passes (r : Request) (hash : Word) : Prop where
  review : r.reviewOf ≠ some hash.toList
  veto : r.vetoOf ≠ some hash.toList

/-- A request of neither kind passes every hash. -/
theorem Request.passes_of_none {r : Request} (hreview : r.reviewOf = none)
    (hveto : r.vetoOf = none) (hash : Word) : r.Passes hash := by
  constructor
  · rw [hreview]
    exact nofun
  · rw [hveto]
    exact nofun

/-- A deposit passes every hash. -/
theorem Brought.passes {b : Bridge} {funds : List Coin} {r : Request}
    {token : Token} {amount : Amount} {destChain destAccount : List UInt8}
    (h : Brought b funds r token amount destChain destAccount)
    (hash : Word) : r.Passes hash := by
  cases h with
  | coin | held | burned => exact Request.passes_of_none rfl rfl hash

/-- So does a payout. -/
theorem Request.passes_of_payoutOf {r : Request} {bytes : List UInt8}
    (h : r.payoutOf = some bytes) (hash : Word) : r.Passes hash := by
  cases r with
  | executeUnlock | executeMint => exact passes_of_none rfl rfl hash
  | _ => cases h

/-- So does any request of the administrator. -/
theorem Request.passes_of_isAdministrative {r : Request}
    (h : r.isAdministrative = true) (hash : Word) : r.Passes hash := by
  refine passes_of_none ?_ ?_ hash
  · unfold reviewOf
    split
    · cases h
    · cases h
    · rfl
  · unfold vetoOf
    split
    · cases h
    · rfl

/-- A request names one hash, so it passes every other. -/
theorem Request.passes_of_reviewOf {r : Request} {hash hash' : Word}
    (h : r.reviewOf = some hash.toList) (hne : hash ≠ hash') :
    r.Passes hash' := by
  refine ⟨?_, ?_⟩
  · rw [h]
    exact fun he => hne (Bytes.ext (Option.some.inj he))
  · cases r with
    | approve | uncancel => exact nofun
    | _ => cases h

/-- A veto names one hash too, and passes every other. -/
theorem Request.passes_of_vetoOf {r : Request} {hash hash' : Word}
    (h : r.vetoOf = some hash.toList) (hne : hash ≠ hash') :
    r.Passes hash' := by
  refine ⟨?_, ?_⟩
  · cases r with
    | cancel => exact nofun
    | _ => cases h
  · rw [h]
    exact fun he => hne (Bytes.ext (Option.some.inj he))

/-- Of all taken requests, the last to begin the review under a hash was
this one, by an operator, and none has vetoed it since. -/
structure LastReview (past : List Taken) (hash : Word) (a : Taken) : Prop where
  /-- Whatever came after it leaves the review as it was. -/
  latest : ∃ earlier later, past = earlier ++ a :: later
    ∧ ∀ x ∈ later, x.request.Passes hash
  review : a.request.reviewOf = some hash.toList
  operator : a.before.bridge.operators.contains a.sender = true

/-- A review that begins now is the last one. -/
theorem LastReview.begin (past : List Taken) {hash : Word} {a : Taken}
    (review : a.request.reviewOf = some hash.toList)
    (operator : a.before.bridge.operators.contains a.sender = true) :
    LastReview (past ++ [a]) hash a :=
  ⟨⟨past, [], rfl, fun _ hx => absurd hx List.not_mem_nil⟩, review,
    operator⟩

/-- What passes the hash leaves its last review the last. -/
theorem LastReview.pass {past : List Taken} {hash : Word} {a t : Taken}
    (h : LastReview past hash a) (ht : t.request.Passes hash) :
    LastReview (past ++ [t]) hash a := by
  obtain ⟨earlier, later, rfl, hlater⟩ := h.latest
  refine ⟨⟨earlier, later ++ [t], ?_, fun x hx => ?_⟩, h.review, h.operator⟩
  · rw [List.append_assoc, List.cons_append]
  · rcases List.mem_append.mp hx with hx | hx
    · exact hlater x hx
    · rw [List.mem_singleton.mp hx]
      exact ht

-- ============================================================ the invariant

/-- Behind every live withdrawal stands the request that began its review,
at the time its marks give. -/
def ReviewKnown (past : List Taken) (withdrawals : Table Word Withdrawal) :
    Prop :=
  ∀ hash w, withdrawals.get? hash = some w → w.marks.live = true →
    ∃ a, LastReview past hash a
      ∧ w.marks.approvedAt = a.before.now.seconds

namespace ReviewKnown

variable {past : List Taken} {withdrawals : Table Word Withdrawal}
  {hash : Word} {w' : Withdrawal} {t : Taken}

/-- Nothing is on record, so nothing needs a review. -/
theorem empty (past : List Taken) : ReviewKnown past Table.empty := by
  intro hash w hw
  rw [Table.get?_empty] at hw
  cases hw

/-- A request that concerns no review leaves all of them as they are. -/
theorem pass (h : ReviewKnown past withdrawals)
    (ht : ∀ hash, t.request.Passes hash) :
    ReviewKnown (past ++ [t]) withdrawals := by
  intro hash w hw hlive
  obtain ⟨a, ha, htime⟩ := h hash w hw hlive
  exact ⟨a, ha.pass (ht hash), htime⟩

/-- A request writes one withdrawal and concerns the review of no other. -/
theorem write (h : ReviewKnown past withdrawals)
    (own : w'.marks.live = true → ∃ a, LastReview (past ++ [t]) hash a
      ∧ w'.marks.approvedAt = a.before.now.seconds)
    (ht : ∀ hash', hash ≠ hash' → t.request.Passes hash') :
    ReviewKnown (past ++ [t]) (withdrawals.insert hash w') := by
  intro hash' w hw hlive
  rw [Table.get?_insert] at hw
  by_cases hk : hash = hash'
  · rw [if_pos hk] at hw
    cases hw
    subst hk
    exact own hlive
  · rw [if_neg hk] at hw
    obtain ⟨a, ha, htime⟩ := h hash' w hw hlive
    exact ⟨a, ha.pass (ht hash' hk), htime⟩

end ReviewKnown

/-- What waits for a report is neither an approval nor a veto nor the
reversal of one. -/
theorem Taken.passes_of_awaits {t : Taken} (h : t.receipt.awaits = true)
    (hash : Word) : t.request.Passes hash := by
  have hmoved : t.after.inFlight ≠ t.before.bridge.inFlight := by
    have hflying := t.handled.awaits_eq t.idle
    rw [t.idle]
    intro hnone
    rw [h, hnone] at hflying
    cases hflying
  have handled := t.handled
  generalize t.request = r at handled ⊢
  cases handled with
  | deposit brought told => exact brought.passes hash
  | submit told => exact Request.passes_of_none rfl rfl hash
  | approve told => exact absurd (by rw [told.after]) hmoved
  | cancel told => exact absurd (by rw [told.after]) hmoved
  | uncancel told => exact absurd (by rw [told.after]) hmoved
  | execute asks told => exact Request.passes_of_payoutOf asks hash
  | administer only told =>
      exact Request.passes_of_isAdministrative only hash

/-- The review of every live withdrawal is known, throughout every run. -/
theorem reviewKnown_invariant :
    Invariant fun past b => ReviewKnown past b.withdrawals := by
  refine ⟨?opened, ?kept, ?undone, fun h => h⟩
  case opened =>
    intro o
    obtain ⟨settings, -, hb, -⟩ := Bridge.setUp_eq_ok o.success
    rw [hb]
    exact .empty []
  case undone =>
    intro past t hawaits h
    exact h.pass (Taken.passes_of_awaits hawaits)
  case kept =>
    rintro past t h
    have handled := t.handled
    generalize hr : t.request = r at handled
    cases handled with
    | deposit brought told =>
        rw [told.after]
        exact h.pass fun hash => hr ▸ brought.passes hash
    | submit told =>
        rw [told.after]
        refine h.write ?_ fun hash' _ =>
          hr ▸ Request.passes_of_none rfl rfl hash'
        rw [told.record_eq]
        exact nofun
    | approve told =>
        have hreview : t.request.reviewOf = some told.hash.toList := by
          rw [hr]
          exact congrArg some told.bytes_eq
        -- the approval is itself the last review, and its time is the record's
        rw [told.after]
        refine h.write (fun _ => ⟨t, .begin past hreview told.operator, rfl⟩)
          fun hash' hne => ?_
        exact Request.passes_of_reviewOf hreview hne
    | cancel told =>
        have hveto : t.request.vetoOf = some told.hash.toList := by
          rw [hr]
          exact congrArg some told.bytes_eq
        rw [told.after]
        -- what is vetoed is live no more, so nothing has to be shown of it
        refine h.write (fun hlive => ?_) fun hash' hne => ?_
        · exact absurd (Marks.live_iff.mp hlive).2 Bool.noConfusion
        · exact Request.passes_of_vetoOf hveto hne
    | uncancel told =>
        have hreview : t.request.reviewOf = some told.hash.toList := by
          rw [hr]
          exact congrArg some told.bytes_eq
        rw [told.after]
        refine h.write (fun _ => ⟨t, .begin past hreview told.operator, rfl⟩)
          fun hash' hne => ?_
        exact Request.passes_of_reviewOf hreview hne
    -- payment keeps the marks that were live, and the review behind them
    | execute asks told =>
        have hpass := Request.passes_of_payoutOf asks
        obtain ⟨a, ha, htime⟩ := h told.hash told.found told.found_eq
          (Marks.live_iff.mpr ⟨told.approved, told.not_cancelled⟩)
        rw [told.after]
        refine h.write (fun _ => ⟨a, ha.pass ?_, htime⟩) fun hash' _ => ?_
        · exact hr ▸ hpass told.hash
        · exact hr ▸ hpass hash'
    | administer only told =>
        rw [told.frame]
        exact h.pass fun hash =>
          hr ▸ Request.passes_of_isAdministrative only hash

-- =============================================================== the window

/-- Before the end of the clock the end of a window is its approval and its
length. -/
theorem ReviewWindow.isOpen_iff {approvedAt window now : UInt64}
    (hnow : now.toNat ≤ lastBlockTime) :
    isOpen approvedAt window now = true ↔
      now.toNat < approvedAt.toNat + window.toNat := by
  unfold isOpen closesAt
  rw [decide_eq_true_eq, UInt64.lt_iff_toNat_lt, toNat_saturatingAdd]
  simp only [lastBlockTime] at hnow
  simp only [word64Limit]
  omega

/-- So a window that is over has run in full. -/
theorem ReviewWindow.le_of_isOpen_eq_false {approvedAt window now : UInt64}
    (hnow : now.toNat ≤ lastBlockTime)
    (h : isOpen approvedAt window now = false) :
    approvedAt.toNat + window.toNat ≤ now.toNat := by
  rw [← Bool.not_eq_true, isOpen_iff hnow] at h
  exact Nat.le_of_not_lt h

/-- An accepted window is fifteen seconds or longer. -/
theorem ReviewWindow.minLength_le {window : UInt64}
    (h : isValid window = true) : 15 ≤ window.toNat :=
  (isValid_iff.mp h).1

theorem ReviewWindow.le_maxLength {window : UInt64}
    (h : isValid window = true) : window.toNat ≤ 86400 :=
  (isValid_iff.mp h).2

/-- The window in the settings has an accepted length. -/
def WindowValid (b : Bridge) : Prop :=
  ∀ s, b.settings = some s → ReviewWindow.isValid s.reviewWindow = true

/-- The window is accepted at set-up and whenever it is changed. -/
theorem windowValid_invariant : Invariant fun _ => WindowValid := by
  refine .ofBridge ?opened ?kept (fun h => h)
  case opened =>
    intro o s hs
    obtain ⟨settings, hvalid, hb, -⟩ := Bridge.setUp_eq_ok o.success
    rw [hb] at hs
    cases hs
    exact hvalid
  case kept =>
    intro b c sender funds receipt b' r idle handled h
    unfold WindowValid
    cases handled with
    | deposit brought told => rw [told.after]; exact h
    | submit told => rw [told.after]; exact h
    | approve told => rw [told.after]; exact h
    | cancel told => rw [told.after]; exact h
    | uncancel told => rw [told.after]; exact h
    | execute asks told => rw [told.after]; exact h
    | administer only told =>
        intro s' hs'
        obtain ⟨s, s₁, hs, hs₁, hmoved⟩ := told.settings
        rw [hs₁] at hs'
        cases hs'
        rcases hmoved.reviewWindow with hsame | hvalid
        · rw [hsame]
          exact h s hs
        · exact hvalid

-- ========================================================== a sample payout

namespace Sample

/-- The chain that the sample's deposit is made on. -/
def thereChain : ChainId := ⟨[0, 0, 0, 1], rfl⟩

/-- The chain that it is paid out on. -/
def hereChain : ChainId := ⟨[0, 0, 0, 2], rfl⟩

/-- Who transfers, on either chain. -/
def user : Address := "terra1zyg3zyg3zyg3zyg3zyg3zyg3zyg3zyg38edzs0"

/-- The user as every chain sees it. -/
def account : Word :=
  ⟨[0, 0, 0, 2] ++ List.replicate 20 0x11 ++ List.replicate 8 0, rfl⟩

/-- What the deposit leaves after its fee. -/
def amount : Amount := ⟨995, by decide⟩

/-- The hash of the transfer. -/
def hash : Word :=
  ⟨[245, 9, 181, 115, 209, 53, 236, 132, 244, 22, 135, 5, 205, 145, 38, 114,
    187, 138, 181, 175, 197, 148, 148, 62, 7, 116, 91, 115, 85, 63, 151, 209],
    rfl⟩

/-- A bridge that is set up on a chain. -/
def opening (chain : ChainId)
    (h : (Opening.ofSetUp? ⟨1000, by decide⟩ Bank.empty
      ⟨"admin", ["operator"], ["canceler"], chain.toList, "uluna", "fees",
        none, some 15⟩).isSome = true) : Opening :=
  Option.get _ h

/-- The bridge here, with a chain and a token that it mints. -/
def ready : Run :=
  Run.fresh (opening hereChain (by decide +kernel))
    |>.extend (.openContract "terra1mint") nofun
    |>.extend (.take "admin" []
        (.registerChain "there" thereChain.toList)) nofun
    |>.extend (.take "admin" []
        (.addToken "terra1mint" false .mintBurn 6)) nofun
    |>.extend (.take "admin" []
        (.setCounterpart "terra1mint" thereChain.toList
          (Bytes.zero 32).toList 6)) nofun

/-- Anyone submits the withdrawal. -/
def submission : Session.Step :=
  .take "anyone" []
    (.submit ⟨thereChain.toList, account.toList, "terra1mint", user, amount,
      1, 6⟩)

/-- What the submission puts on record. -/
def record : Withdrawal where
  srcChain := thereChain
  srcAccount := account
  destAccount := account
  token := "terra1mint"
  recipient := user
  amount := amount
  nonce := 1
  srcDecimals := 6
  destDecimals := 6
  tip := Amount.zero
  fee := Amount.zero
  feeRecipient := none
  deductFee := false
  submittedAt := 1000
  marks := ⟨false, false, false, 0⟩

/-- The withdrawal is submitted. -/
def submitted : Run := ready.extend submission nofun

/-- The session with the withdrawal on record. -/
def recorded : Session :=
  { ready.last with
    bridge :=
      { ready.last.bridge with
        withdrawals := Table.empty.insert hash record } }

/-- The token that is minted, as every chain sees it. -/
def token : Word :=
  ⟨[252, 70, 203, 134, 176, 64, 144, 119, 94, 251, 98, 76, 211, 127, 211, 164,
    112, 179, 133, 165, 202, 143, 33, 12, 227, 65, 151, 192, 210, 149, 209,
    208], rfl⟩

theorem tokenWord_mint : tokenWord "terra1mint" = token := by decide +kernel

theorem hash_record : (record.transfer hereChain).hash = hash := by
  unfold Withdrawal.transfer
  rw [show tokenWord record.token = token from tokenWord_mint]
  decide +kernel

/-- The bridge here before the submission, and what that puts on record. -/
theorem ready_state :
    ready.last.bridge.withdrawals = Table.empty
      ∧ ready.last.bridge.settings.map (·.thisChain) = some hereChain
      ∧ (ready.last.takenBy submission).isSome = true
      ∧ (ready.last.step submission).1.bridge.withdrawals.values
        = [record] := by
  decide +kernel

/-- What the submission does, whatever the hash of its transfer is. -/
theorem after_submission {t : Taken}
    (ht : ready.last.takenBy submission = some t) :
    ∃ w, t.after = { ready.last.bridge with
        withdrawals :=
          Table.empty.insert (w.transfer hereChain).hash w }
      ∧ t.receipt.awaits = false := by
  obtain ⟨hempty, hchain, -, -⟩ := ready_state
  have hbefore := Session.before_of_takenBy ht
  have handled := t.handled
  rw [Session.request_of_takenBy ht, hbefore] at handled
  cases handled with
  | submit told =>
      have hafter := told.after
      rw [told.settings_eq] at hchain
      have hthis : told.settings.thisChain = hereChain :=
        Option.some.inj hchain
      rw [told.hash_eq, hthis, hempty] at hafter
      refine ⟨told.record, hafter, ?_⟩
      unfold Receipt.awaits
      rw [told.messages]
      rfl
  | deposit brought told => cases brought
  | execute asks told => cases asks
  | administer only told => cases only

/-- The submission is the last step of its run. -/
theorem last_submitted : submitted.last = recorded := by
  obtain ⟨-, -, htaken, hvalues⟩ := ready_state
  obtain ⟨t, ht⟩ := Option.isSome_iff_exists.mp htaken
  obtain ⟨w, hafter, hawaits⟩ := after_submission ht
  rw [Session.step_of_takenBy ht, hafter] at hvalues
  have hw : w = record := List.singleton_inj.mp hvalues
  unfold submitted
  rw [Run.last_extend, Session.step_of_takenBy ht, hafter, hawaits, hw,
    hash_record]
  rfl

/-- The operator approves it, without a fee. -/
def approval : Session.Step := .take "operator" [] (.approve hash.toList none)

/-- Anyone asks for its payout. -/
def payout : Session.Step := .take "anyone" [] (.executeMint hash.toList)

/-- It is approved. -/
def approved : Run := submitted.extend approval nofun

/-- Its review runs to the end. -/
def reviewed : Run := approved.extend (.advance 15) nofun

/-- It is paid. -/
def paid : Run := reviewed.extend payout nofun

/-- The approval and the wait end the run that is reviewed. -/
theorem last_reviewed :
    reviewed.last = ((recorded.step approval).1.step (.advance 15)).1 := by
  unfold reviewed approved
  rw [Run.last_extend, Run.last_extend, last_submitted]

end Sample

-- ============================================================= every payout

/-- Whenever a payout is made, the review under its hash was begun for the
last time by an operator, and has run for the whole window that the
settings hold at the payout, no less than fifteen seconds, without a
veto. -/
theorem Run.payout_reviewed (r : Run) {past future : List Taken} {t : Taken}
    {hash : Word} (hrun : r.history.taken = past ++ t :: future)
    (hpays : t.request.payoutOf = some hash.toList) :
    ∃ settings earlier a later,
      t.before.bridge.settings = some settings
        ∧ past = earlier ++ a :: later
        ∧ a.request.reviewOf = some hash.toList
        ∧ a.before.bridge.operators.contains a.sender = true
        ∧ a.time + settings.reviewWindow.toNat ≤ t.time
        ∧ a.time + 15 ≤ t.time
        ∧ ∀ x ∈ later, x.request.reviewOf ≠ some hash.toList
          ∧ x.request.vetoOf ≠ some hash.toList := by
  have hknown := (reviewKnown_invariant.throughout r).once past t future hrun
  have hvalid := (windowValid_invariant.throughout r).once past t future hrun
  have handled := t.handled
  generalize hr : t.request = req at handled hpays
  cases handled with
  | execute asks told =>
      have hhash : told.hash = hash := by
        rw [hpays] at asks
        exact Bytes.ext (told.bytes_eq.symm.trans (Option.some.inj asks).symm)
      -- a payout is of a live record, so a review stands behind it
      obtain ⟨a, ha, htime⟩ := hknown told.hash told.found told.found_eq
        (Marks.live_iff.mpr ⟨told.approved, told.not_cancelled⟩)
      obtain ⟨earlier, later, hpast, hlater⟩ := ha.latest
      have hwindow : a.time + told.settings.reviewWindow.toNat ≤ t.time := by
        have := ReviewWindow.le_of_isOpen_eq_false t.before.now.le_last
          told.window_over
        rw [htime] at this
        exact this
      have hmin := ReviewWindow.minLength_le
        (hvalid told.settings told.settings_eq)
      refine ⟨told.settings, earlier, a, later, told.settings_eq, hpast, ?_,
        ha.operator, hwindow, by omega, fun x hx => ?_⟩
      · rw [← hhash]
        exact ha.review
      · rw [← hhash]
        exact ⟨(hlater x hx).review, (hlater x hx).veto⟩
  | deposit brought told =>
      rw [brought.payoutOf] at hpays
      cases hpays
  | administer only told =>
      rw [Request.payoutOf_of_isAdministrative only] at hpays
      cases hpays
  | submit | approve | cancel | uncancel => cases hpays

/-- A payout at the very end of the shortest window. -/
theorem Run.payout_after_fifteen_seconds :
    ∃ (r : Run) (past : List Taken) (t a : Taken),
      r.history.taken = past ++ [t]
        ∧ t.request = .executeMint Sample.hash.toList
        ∧ a ∈ past ∧ a.time + 15 ≤ t.time := by
  have hpaid : (Sample.reviewed.last.takenBy Sample.payout).map (·.request)
      = some (.executeMint Sample.hash.toList) := by
    rw [Sample.last_reviewed]
    decide +kernel
  obtain ⟨t, ht, hrequest⟩ := Option.map_eq_some_iff.mp hpaid
  have hrun : Sample.paid.history.taken
      = Sample.reviewed.history.taken ++ [t] := by
    unfold Sample.paid
    rw [Run.history_extend, History.taken_note, ht]
    rfl
  have hpays : t.request.payoutOf = some Sample.hash.toList := by
    rw [hrequest]
    rfl
  obtain ⟨settings, earlier, a, later, -, hpast, -, -, -, hwindow, -⟩ :=
    Run.payout_reviewed _ hrun hpays
  refine ⟨_, _, t, a, hrun, hrequest, ?_, hwindow⟩
  rw [hpast]
  exact List.mem_append_right _ List.mem_cons_self

end TokenBridge
