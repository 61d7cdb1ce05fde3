/-
Who may change what.

A bridge has three kinds of keeper. The administrator decides on the
configuration: the settings, the roles, the registry of chains and tokens,
the rates. An operator approves withdrawals and takes vetoes back. A
canceler vetoes. Each rule asks for its keeper first, and the frame of a
rule says what else it leaves alone, so a change that can be seen in the
state tells who asked for it (`Permitted`).

What is not a request changes none of this. A report that is refused brings
back an older state, but what waits for a report is a deposit or a payout,
and those change neither the configuration nor an approval nor a veto. So
while the administrator is silent the configuration is the one of the
set-up.
-/
import TokenBridge.Proofs.Lifecycle

namespace TokenBridge

-- ======================================================== the configuration

/-- All that the administrator decides. -/
structure Configuration where
  settings : Option Settings
  operators : RoleSet
  cancelers : RoleSet
  chains : Table ChainId Chain
  chainByIdentifier : Table String ChainId
  tokens : Table String Token
  counterparts : Table (String × ChainId) Counterpart
  customRates : Table Address Fee.CustomRate
deriving DecidableEq

/-- The part of the state that only the administrator may change. -/
def Bridge.configuration (b : Bridge) : Configuration where
  settings := b.settings
  operators := b.operators
  cancelers := b.cancelers
  chains := b.chains
  chainByIdentifier := b.chainByIdentifier
  tokens := b.tokens
  counterparts := b.counterparts
  customRates := b.customRates

/-- What nobody decides on after the set-up. -/
structure Charter where
  admin : Address
  thisChain : ChainId
  nativeDenom : String
deriving DecidableEq

/-- The part of the settings that nobody may change. -/
def Settings.charter (s : Settings) : Charter :=
  ⟨s.admin, s.thisChain, s.nativeDenom⟩

/-- The charter of a bridge, once it has been set up. -/
def Bridge.charter? (b : Bridge) : Option Charter :=
  b.settings.map Settings.charter

/-- The administrator, the name of the chain and the native coin are moved by
no change of the settings. -/
theorem SettingsMoved.charter_eq {s s' : Settings} (h : SettingsMoved s s') :
    s'.charter = s.charter := by
  unfold Settings.charter
  rw [h.admin, h.thisChain, h.nativeDenom]

section

variable {b b' : Bridge} {c : Context} {sender : Address}
  {funds : List Coin} {r : Request} {receipt : Receipt}

/-- A request that is not the administrator's leaves the configuration
alone. -/
theorem Handled.configuration_eq (h : Handled b c sender funds receipt b' r)
    (hr : r.isAdministrative = false) :
    b'.configuration = b.configuration := by
  cases h with
  | deposit brought told => rw [told.after]; rfl
  | submit told => rw [told.after]; rfl
  | approve told => rw [told.after]; rfl
  | cancel told => rw [told.after]; rfl
  | uncancel told => rw [told.after]; rfl
  | execute asks told => rw [told.after]; rfl
  | administer only told =>
      rw [only] at hr
      cases hr

/-- What each message of the administrator keeps of the configuration is
always true of it. -/
theorem Invariant.ofConfiguration {I : Configuration → Prop}
    (opened : ∀ o : Opening, I o.bridge.configuration)
    (decided : ∀ {b s r b'}, b.settings = some s → Decided b s r b' →
      I b.configuration → I b'.configuration) :
    Invariant fun _ b => I b.configuration := by
  refine ⟨opened, ?kept, fun _ _ _ h => h, fun h => h⟩
  intro past t h
  cases hr : t.request.isAdministrative with
  | true =>
      obtain ⟨s, ⟨hs, -⟩, hd⟩ := t.decided hr
      exact decided hs hd h
  | false =>
      rw [t.handled.configuration_eq hr]
      exact h

/-- No request touches the charter. -/
theorem Handled.charter_eq (h : Handled b c sender funds receipt b' r) :
    b'.charter? = b.charter? := by
  cases h with
  | deposit brought told => rw [told.after]; rfl
  | submit told => rw [told.after]; rfl
  | approve told => rw [told.after]; rfl
  | cancel told => rw [told.after]; rfl
  | uncancel told => rw [told.after]; rfl
  | execute asks told => rw [told.after]; rfl
  | administer only told =>
      obtain ⟨s, s', hs, hs', hmoved⟩ := told.settings
      unfold Bridge.charter?
      rw [hs, hs']
      exact congrArg some hmoved.charter_eq

end

-- ================================================================ the marks

/-- The marks under a hash, none where there is no withdrawal. -/
def Bridge.marksOf (b : Bridge) (hash : Word) : Marks :=
  ((b.withdrawals.get? hash).map (·.marks)).getD ⟨false, false, false, 0⟩

/-- The marks of a withdrawal that stands there are its own. -/
theorem Bridge.marksOf_of_get? {b : Bridge} {hash : Word} {w : Withdrawal}
    (h : b.withdrawals.get? hash = some w) : b.marksOf hash = w.marks := by
  unfold marksOf
  rw [h]
  rfl

/-- Approvals and vetoes are as they were. -/
structure DecisionsKept (m m' : Marks) : Prop where
  approved : m'.approved = m.approved
  cancelled : m'.cancelled = m.cancelled

/-- The marks under a hash change by the roles of the sender only. -/
structure MarksPermitted (b : Bridge) (sender : Address) (m m' : Marks) :
    Prop where
  approval : m.approved = false → m'.approved = true →
    b.operators.contains sender = true
  reversal : m.cancelled = true → m'.cancelled = false →
    b.operators.contains sender = true
  veto : m.cancelled = false → m'.cancelled = true →
    b.cancelers.contains sender = true

/-- Marks that are kept need nobody's leave. -/
theorem DecisionsKept.permitted {m m' : Marks} (h : DecisionsKept m m')
    (b : Bridge) (sender : Address) : MarksPermitted b sender m m' where
  approval := fun hbefore hafter => by
    rw [h.approved, hbefore] at hafter
    cases hafter
  reversal := fun hbefore hafter => by
    rw [h.cancelled, hbefore] at hafter
    cases hafter
  veto := fun hbefore hafter => by
    rw [h.cancelled, hbefore] at hafter
    cases hafter

section

variable {b b' : Bridge} {c : Context} {sender : Address}
  {funds : List Coin} {r : Request} {receipt : Receipt} {hash : Word}

/-- What a request does to one record, it does by leave of its sender's
role. -/
theorem RecordMoved.permitted
    (h : RecordMoved b c sender funds receipt b' hash r) :
    MarksPermitted b sender (b.marksOf hash) (b'.marksOf hash) := by
  cases h with
  | kept same =>
      have hsame : b'.marksOf hash = b.marksOf hash := by
        unfold Bridge.marksOf
        rw [same]
      rw [hsame]
      exact DecisionsKept.permitted ⟨rfl, rfl⟩ b sender
  | submitted told here after =>
      -- before a submission nothing stands there, and what it writes is
      -- undecided
      subst here
      have hbefore : b.marksOf told.hash = ⟨false, false, false, 0⟩ := by
        unfold Bridge.marksOf
        rw [told.fresh]
        rfl
      rw [hbefore, Bridge.marksOf_of_get? after, told.record_eq]
      exact DecisionsKept.permitted ⟨rfl, rfl⟩ b sender
  | approved told here after =>
      subst here
      rw [Bridge.marksOf_of_get? told.found_eq, Bridge.marksOf_of_get? after]
      exact {
        approval := fun _ _ => told.operator
        reversal := fun _ _ => told.operator
        veto := fun hbefore hafter =>
          absurd (hbefore.symm.trans hafter) Bool.false_ne_true }
  | vetoed told here after =>
      subst here
      rw [Bridge.marksOf_of_get? told.found_eq, Bridge.marksOf_of_get? after]
      exact {
        -- it was not approved before, so nothing was vetoed by this
        approval := fun hbefore hafter =>
          absurd (hbefore.symm.trans hafter) Bool.false_ne_true
        reversal := fun _ hafter => absurd hafter.symm Bool.false_ne_true
        veto := fun _ _ => told.canceler }
  | restored told here after =>
      subst here
      rw [Bridge.marksOf_of_get? told.found_eq, Bridge.marksOf_of_get? after]
      exact {
        approval := fun _ _ => told.operator
        reversal := fun _ _ => told.operator
        veto := fun _ hafter => absurd hafter Bool.false_ne_true }
  | paid asks told here after =>
      subst here
      rw [Bridge.marksOf_of_get? told.found_eq, Bridge.marksOf_of_get? after]
      -- a payout sets a mark that is no decision
      have hkept : DecisionsKept told.found.marks
          { told.found.marks with executed := true } := ⟨rfl, rfl⟩
      exact hkept.permitted b sender

end

-- ============================================================= the requests

/-- What changed from one state to the next was the sender's to change. -/
structure Permitted (b : Bridge) (admin sender : Address) (b' : Bridge) :
    Prop where
  configuration : b'.configuration ≠ b.configuration → sender = admin
  marks : ∀ hash, MarksPermitted b sender (b.marksOf hash) (b'.marksOf hash)

/-- Every request that is taken keeps to what its sender may change. -/
theorem Taken.permitted (t : Taken) {s : Settings}
    (hs : t.before.bridge.settings = some s) :
    Permitted t.before.bridge s.admin t.sender t.after where
  configuration := by
    intro hchanged
    cases hr : t.request.isAdministrative with
    | false => exact absurd (t.handled.configuration_eq hr) hchanged
    | true =>
        obtain ⟨s', ⟨hs', hadmin⟩, -⟩ := t.decided hr
        rw [hs] at hs'
        cases hs'
        exact hadmin
  marks := fun hash => (t.handled.record hash).permitted

-- ======================================================== all the other steps

/-- Neither the configuration nor an approval nor a veto changed. -/
structure Undecided (b b' : Bridge) : Prop where
  configuration : b'.configuration = b.configuration
  marks : ∀ hash, DecisionsKept (b.marksOf hash) (b'.marksOf hash)

/-- Where the answer to a movement comes in, marks and configuration stay as
they are. -/
theorem Undecided.of_eq {b b' : Bridge} {inFlight : Option Movement}
    {version : Option Version} (h : b' = { b with inFlight, version }) :
    Undecided b b' := by
  rw [h]
  exact ⟨rfl, fun _ => ⟨rfl, rfl⟩⟩

/-- Where nothing is decided nobody has to be asked. -/
theorem Undecided.permitted {b b' : Bridge} (h : Undecided b b')
    (admin sender : Address) : Permitted b admin sender b' where
  configuration := fun hchanged => absurd h.configuration hchanged
  marks := fun hash => (h.marks hash).permitted b sender

section

variable {r : Run} {x : Session.Step}

/-- A request that waits for a report has decided nothing, and its undoing
takes nothing back. -/
theorem Awaiting.undecided {origin : Run} {t : Taken}
    (waits : Awaiting origin t r) :
    Undecided r.last.bridge t.before.bridge where
  configuration := by
    have hflying := r.held.flying r.coherent waits.pending
    rw [r.held t waits.pending]
    rcases t.handled.deposited_or_executed t.idle hflying with
      ⟨token, amount, destChain, destAccount, -, ⟨told⟩⟩
        | ⟨kind, bytes, -, ⟨told⟩⟩
    · rw [told.after]
      rfl
    · rw [told.after]
      rfl
  marks := by
    intro hash
    rcases waits.record hash with same | ⟨kind, bytes, told, -, here, paid⟩
    · unfold Bridge.marksOf
      rw [same]
      exact ⟨rfl, rfl⟩
    · subst here
      rw [Bridge.marksOf_of_get? paid, Bridge.marksOf_of_get? told.found_eq]
      exact ⟨rfl, rfl⟩

/-- A step that takes no request decides nothing, whatever it brings
back. -/
theorem Run.undecided_of_untaken (r : Run)
    (hx : ∀ setup, x ≠ .setUp setup) (untaken : r.last.takenBy x = none) :
    Undecided r.last.bridge (r.last.step x).1.bridge := by
  have hstepped := r.stepped hx
  generalize (r.last.step x).1 = s' at hstepped
  cases hstepped with
  | took taken =>
      rw [untaken] at taken
      cases taken
  | undone waits reports refused => exact waits.undecided
  | quiet bridge now => exact .of_eq bridge

/-- Whether a request is taken or refused, what it changes was the sender's to
change. -/
theorem Run.permitted_take (r : Run) {s : Settings} {sender : Address}
    {funds : List Coin} {request : Request}
    (hs : r.last.bridge.settings = some s) :
    Permitted r.last.bridge s.admin sender
      (r.last.step (.take sender funds request)).1.bridge := by
  have hx : ∀ setup, Session.Step.take sender funds request ≠ .setUp setup :=
    nofun
  cases ht : r.last.takenBy (.take sender funds request) with
  | none => exact (r.undecided_of_untaken hx ht).permitted s.admin sender
  | some t =>
      have hbefore := Session.before_of_takenBy ht
      have hpermitted := t.permitted (hbefore.symm ▸ hs)
      cases Session.eq_of_takenBy ht
      rw [Session.step_of_takenBy ht, ← hbefore]
      exact hpermitted

/-- A step of anybody but the administrator leaves the configuration
alone. -/
theorem Run.configuration_step (r : Run) {s : Settings}
    (hx : ∀ setup, x ≠ .setUp setup) (hs : r.last.bridge.settings = some s)
    (silent : ∀ funds request, x ≠ .take s.admin funds request) :
    (r.last.step x).1.bridge.configuration = r.last.bridge.configuration := by
  cases ht : r.last.takenBy x with
  | none => exact (r.undecided_of_untaken hx ht).configuration
  | some t =>
      have hasked := Session.eq_of_takenBy ht
      subst hasked
      by_contra hchanged
      have hsender := (r.permitted_take hs).configuration hchanged
      rw [hsender] at silent
      exact silent _ _ rfl

end

-- ================================================================= the runs

/-- The charter of the set-up is the charter for good. -/
theorem Run.charter_eq (r : Run) :
    r.last.bridge.charter? = r.opening.bridge.charter? := by
  induction r using stepwise with
  | fresh o => rfl
  | extend r x hx ih =>
      rw [last_extend]
      show (r.last.step x).1.bridge.charter? = r.opening.bridge.charter?
      rw [← ih]
      cases ht : r.last.takenBy x with
      | none =>
          have hkept := (r.undecided_of_untaken hx ht).configuration
          exact congrArg (fun c => c.settings.map Settings.charter) hkept
      | some t =>
          rw [Session.step_of_takenBy ht, ← Session.before_of_takenBy ht]
          exact t.handled.charter_eq

/-- A bridge that was set up has settings. -/
theorem Run.settings_eq (r : Run) :
    ∃ s, r.last.bridge.settings = some s
      ∧ r.opening.bridge.charter? = some s.charter := by
  obtain ⟨opened, -, hopened, -⟩ := Bridge.setUp_eq_ok r.opening.success
  have hcharter : r.opening.bridge.charter? = some opened.charter := by
    rw [hopened]
    rfl
  have hlast := r.charter_eq.trans hcharter
  obtain ⟨s, hs, hsame⟩ := Option.map_eq_some_iff.mp hlast
  refine ⟨s, hs, ?_⟩
  rw [hcharter, hsame]

/-- While the administrator is silent the configuration is the one of the
set-up. -/
theorem Run.configuration_of_silent {admin : Address} (r : Run)
    (hadmin : r.opening.bridge.charter?.map Charter.admin = some admin)
    (silent : ∀ funds request, .take admin funds request ∉ r.steps) :
    r.last.bridge.configuration = r.opening.bridge.configuration := by
  induction r using stepwise with
  | fresh o => rfl
  | extend r x hx ih =>
      have hbefore := ih hadmin fun funds request hmem =>
        silent funds request (List.mem_append_left _ hmem)
      obtain ⟨s, hs, hcharter⟩ := r.settings_eq
      have hsame : s.admin = admin := by
        change r.opening.bridge.charter?.map Charter.admin = some admin
          at hadmin
        rw [hcharter] at hadmin
        exact Option.some.inj hadmin
      rw [last_extend, r.configuration_step hx hs]
      · exact hbefore
      · intro funds request hx'
        rw [hsame] at hx'
        apply silent funds request
        rw [← hx']
        exact List.mem_append_right _ List.mem_cons_self

/-- At every moment of a run, what a request changes is its sender's to
change: the configuration the administrator's, an approval or the end of a
veto an operator's, a veto a canceler's. Reports and migrations change
nothing of this, the charter is the one of the set-up, and while the
administrator is silent all of the configuration is. -/
theorem Run.authority (r : Run) :
    ∃ s, r.last.bridge.settings = some s
      ∧ r.opening.bridge.charter? = some s.charter
      ∧ (∀ sender funds request,
          Permitted r.last.bridge s.admin sender
            (r.last.step (.take sender funds request)).1.bridge)
      ∧ (∀ id failure,
          Undecided r.last.bridge
            (r.last.step (.reply id failure)).1.bridge)
      ∧ Undecided r.last.bridge (r.last.step .migrate).1.bridge
      ∧ ((∀ funds request, .take s.admin funds request ∉ r.steps) →
          r.last.bridge.configuration = r.opening.bridge.configuration) := by
  obtain ⟨s, hs, hcharter⟩ := r.settings_eq
  refine ⟨s, hs, hcharter, ?requests, ?reports, ?migration, ?silence⟩
  case requests =>
    intro sender funds request
    exact r.permitted_take hs
  case reports => exact fun id failure => r.undecided_of_untaken nofun rfl
  case migration => exact r.undecided_of_untaken nofun rfl
  case silence =>
    refine r.configuration_of_silent ?_
    rw [hcharter]
    rfl

/-- A run of which the administrator has no part but the set-up. -/
def Sample.silent : Run :=
  (Run.fresh Sample.ready.opening).extend (.take "operator" [] .pause) nofun

/-- The approval of a withdrawal shows that an operator asked for it, and a
run that the administrator has no part in keeps the configuration. -/
theorem Run.authority_of_approval_and_silence :
    Sample.submitted.last.bridge.operators.contains "operator" = true
      ∧ (∀ funds request, .take "admin" funds request ∉ Sample.silent.steps)
      ∧ Sample.silent.last.bridge.configuration
        = Sample.silent.opening.bridge.configuration := by
  have hsilent : ∀ funds request,
      .take "admin" funds request ∉ Sample.silent.steps := by
    intro funds request hmem
    have hstep := List.mem_singleton.mp hmem
    exact absurd (Session.Step.take.inj hstep).1 (by decide)
  refine ⟨?operator, hsilent, ?configuration⟩
  case operator =>
    obtain ⟨s, -, -, hpermitted, -⟩ := Run.authority Sample.submitted
    have hmarks := (hpermitted "operator" []
      (.approve Sample.hash.toList none)).marks Sample.hash
    rw [Sample.last_submitted] at hmarks ⊢
    exact hmarks.approval (by decide +kernel) (by decide +kernel)
  case configuration =>
    obtain ⟨s, -, hcharter, -, -, -, hkept⟩ := Run.authority Sample.silent
    have hadmin : Sample.silent.opening.bridge.charter?.map Charter.admin
        = some "admin" := by decide +kernel
    rw [hcharter] at hadmin
    have hsame : s.admin = "admin" := Option.some.inj hadmin
    rw [hsame] at hkept
    exact hkept hsilent

end TokenBridge
