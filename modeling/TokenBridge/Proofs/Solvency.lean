/-
The reported balance covers what is locked, after every accepted report.

A token contract may do as it likes between two movements. The bridge looks
at its own balance twice in each: when the movement sets out, and when the
report is accepted, and there the two must differ by the amount exactly. So
let `seen` be what the last accepted report on a token saw. If no movement
sets out from less, the locked balance that stands never passes `seen`: a
movement that is accepted raises or lowers both by its amount, and one that
is refused leaves both. What is locked is changed at the request and what is
seen at the report, so in between the claim is about the state the bridge
would fall back to, and the movement in flight says how far the present
state is off (`Solvent`).

Two facts about amounts carry this. The amount of a movement is never zero,
as a fee leaves something of every deposit, or a balance that fell would
pass for one that stayed. And the recipient of a contract's token gets all
that is unlocked, because its fee is never taken out of the payout.
-/
import TokenBridge.Proofs.LockedLedger
import TokenBridge.Proofs.Rates
import TokenBridge.Proofs.Stretch

namespace TokenBridge

open Outcome

-- ========================================================= what reports saw

/-- What the contract of a token says that the bridge holds. -/
def Session.reported (s : Session) (id : String) : Except HostError Amount :=
  s.bank.tokenBalance id Session.bridgeAddress

/-- A step is a report on a movement of a token, and is accepted. -/
def Session.settles (s : Session) (id : String) : Session.Step → Bool
  | .reply replyId failure =>
    s.bridge.inFlight.any (fun m => m.token.id == id)
      && (s.bridge.reply s.context replyId failure).isOk
  | _ => false

/-- The balance that the last accepted report on a token saw, after one
more step. -/
def Session.seenAfter (s : Session) (id : String) (seen : Nat)
    (x : Session.Step) : Nat :=
  if s.settles id x then
    match s.reported id with
    | .ok balance => balance.toNat
    | .error _ => seen
  else seen

/-- The balance that the last accepted report on a token saw, after steps. -/
def Session.seenOver (s : Session) (id : String) (seen : Nat) :
    List Session.Step → Nat
  | [] => seen
  | x :: rest => (s.step x).1.seenOver id (s.seenAfter id seen x) rest

/-- The balance of a token that the last accepted report on it saw, nothing
before the first. -/
def Run.seen (r : Run) (id : String) : Nat :=
  r.opening.session.seenOver id 0 r.steps

/-- What is seen over two runs of steps is seen over the second from what the
first saw. -/
theorem Session.seenOver_append (s : Session) (id : String) (seen : Nat)
    (xs ys : List Session.Step) :
    s.seenOver id seen (xs ++ ys)
      = (s.run xs).1.seenOver id (s.seenOver id seen xs) ys := by
  induction xs generalizing s seen with
  | nil => rfl
  | cons x rest ih => exact ih (s.step x).1 (s.seenAfter id seen x)

/-- One more step of a run is one more step of what was seen. -/
theorem Run.seen_extend (r : Run) (x : Session.Step)
    (hx : ∀ setup, x ≠ .setUp setup) (id : String) :
    (r.extend x hx).seen id = r.last.seenAfter id (r.seen id) x := by
  show r.opening.session.seenOver id 0 (r.steps ++ [x]) = _
  rw [Session.seenOver_append]
  rfl

theorem Session.settles_of_not_reply {s : Session} {id : String}
    {x : Session.Step} (h : x.isReply = false) : s.settles id x = false := by
  cases x with
  | reply replyId failure => cases h
  | _ => rfl

/-- What settles nothing is not seen. -/
theorem Session.seenAfter_of_not_settles {s : Session} {id : String}
    {x : Session.Step} (h : s.settles id x = false) (seen : Nat) :
    s.seenAfter id seen x = seen := by
  unfold seenAfter
  rw [h]
  rfl

/-- If a step sets a movement of a token out, the bridge then holds no less
of the token than the last accepted report on it saw. -/
def Run.SetsOutCovered (id : String) (r : Run) (x : Session.Step) : Prop :=
  ∀ t m balance, r.last.takenBy x = some t → t.after.inFlight = some m →
    m.token.id = id → r.last.reported id = .ok balance →
    r.seen id ≤ balance.toNat

-- ===================================================== the movement set out

/-- A movement changes what is locked of a token by its amount. -/
inductive LockShift (id : String) (b b' : Bridge) (m : Movement) : Prop
  /-- The ledger has gained the amount. -/
  | locks (kind : m.kind = .lock)
      (sum : (b.lockedBalance id).toNat + m.amount.toNat
        = (b'.lockedBalance id).toNat) : LockShift id b b' m
  /-- The ledger has given it up. -/
  | unlocks (kind : m.kind = .unlock)
      (sum : (b'.lockedBalance id).toNat + m.amount.toNat
        = (b.lockedBalance id).toNat) : LockShift id b b' m

/-- A movement of a contract's token that the bridge holds, as it is set
out. -/
structure SetOut (id : String) (b b' : Bridge) (c : Context)
    (m : Movement) : Prop where
  named : m.token.id = id
  contract : m.token.isNative = false
  amount_ne : m.amount.toNat ≠ 0
  before : c.balance m.token c.self = .ok m.thisBefore
  shift : LockShift id b b' m

/-- A movement of the token that is noted sets out, once its shift of the
ledger is known. -/
theorem SetOut.of_note {id : String} {b b' : Bridge} {c : Context}
    {moves : MovementKind} {token : Token} {account : Address}
    {amount : Amount} {m : Movement}
    (hnote : Custody.note c moves token account amount = .ok m)
    (named : token.id = id) (contract : token.isNative = false)
    (amount_ne : amount.toNat ≠ 0)
    (shift : m.kind = moves → m.amount = amount → LockShift id b b' m) :
    SetOut id b b' c m := by
  obtain ⟨hbefore, -, hm⟩ := Custody.note_eq_ok_iff.mp hnote
  have hkind : m.kind = moves := by rw [hm]
  have htoken : m.token = token := by rw [hm]
  have hamount : m.amount = amount := by rw [hm]
  exact ⟨by rw [htoken]; exact named, by rw [htoken]; exact contract,
    by rw [hamount]; exact amount_ne, by rw [htoken]; exact hbefore,
    shift hkind hamount⟩

/-- Under a name only a contract's token that the bridge holds is
registered, if any. -/
def Bridge.HeldContract (b : Bridge) (id : String) : Prop :=
  ∀ token, b.tokens.get? id = some token →
    token.isNative = false ∧ token.kind = .lockUnlock

section

variable {b b' : Bridge} {c : Context} {sender : Address}
  {funds : List Coin} {receipt : Receipt} {id : String}

/-- A deposit of the token sets out a movement that locks what is left
after the fee; any other leaves what is locked of it. -/
theorem Deposited.setsOut {r : Request} {token : Token} {amount : Amount}
    {destChain destAccount : List UInt8}
    (told : Deposited b c sender token amount destChain destAccount receipt b')
    (brought : Brought b funds r token amount destChain destAccount)
    (idle : b.inFlight = none) (kept : TokensKept b.tokens b.locked)
    (capped : RatesCapped b) (held : b.HeldContract id) :
    (∃ m, b'.inFlight = some m ∧ SetOut id b b' c m)
      ∨ (b'.lockedBalance id = b.lockedBalance id
        ∧ ∀ m, b'.inFlight = some m → m.token.id ≠ id) := by
  have hflying := told.flying
  -- either the deposit is of this token, or it leaves its ledger alone
  by_cases hid : token.id = id
  · obtain ⟨hcontract, hkind⟩ :=
      held token (by rw [← hid]; exact brought.get?_token kept)
    have htake := told.custody_eq
    rw [hkind] at htake
    rcases Custody.take_message htake with
      ⟨hnative, -⟩ | ⟨-, custody, request, hcustody, -⟩
    · rw [hcontract] at hnative
      cases hnative
    · rw [hcustody] at htake hflying
      obtain ⟨moves, hnote, hmoves⟩ := Custody.take_check htake
      obtain rfl := hmoves rfl
      have hnet := capped.net_pos told.settings_eq told.charge_eq
        told.amount_ne
      rcases told.locked_eq with ⟨-, total, htotal, hlocked⟩ | ⟨hmint, -⟩
      · refine .inl ⟨custody.check, hflying, SetOut.of_note hnote hid
          hcontract (Nat.ne_of_gt hnet) fun hlock hamount => .locks hlock ?_⟩
        rw [hamount, Bridge.lockedBalance_of_write hlocked, if_pos hid, ← hid]
        exact htotal
      · rw [hkind] at hmint
        cases hmint
  · refine .inr ⟨Bridge.lockedBalance_of_moved told.locked_eq hid,
      fun m hm => ?_⟩
    have htake := told.custody_eq
    rw [hflying] at hm
    cases hcustody : told.custody with
    | none =>
        rw [hcustody] at hm
        rw [Option.elim_none, idle] at hm
        cases hm
    | some custody =>
        rw [hcustody] at hm htake
        cases hm
        obtain ⟨moves, hnote, -⟩ := Custody.take_check htake
        obtain ⟨-, -, hm⟩ := Custody.note_eq_ok_iff.mp hnote
        rw [hm]
        exact hid

/-- A payout of the token sets out a movement that unlocks all that is paid,
or pays nothing; any other leaves what is locked of it. -/
theorem Executed.setsOut {kind : TokenKind} {bytes : List UInt8}
    (told : Executed b c funds kind bytes receipt b')
    (idle : b.inFlight = none) (kept : TokensKept b.tokens b.locked)
    (placed : b.withdrawals.Every (FeePlaced b.tokens))
    (held : b.HeldContract id) :
    (∃ m, b'.inFlight = some m ∧ SetOut id b b' c m)
      ∨ (b'.lockedBalance id = b.lockedBalance id
        ∧ ∀ m, b'.inFlight = some m → m.token.id ≠ id) := by
  obtain ⟨hnamed, hfound⟩ := kept.get?_of_loadToken told.token_eq
  by_cases hid : told.token.id = id
  · obtain ⟨hcontract, hkind⟩ := held told.token (by rw [← hid]; exact hfound)
    -- the fee of a contract's token is not taken out of the payout
    have hwhole : told.toRecipient.toNat = told.payout.toNat := by
      have hsplit := told.split
      have hdeduct : told.found.deductFee = false := by
        rw [Bool.eq_false_iff]
        intro hd
        have hnative :=
          (placed _ _ told.found_eq).native_of_deducts told.token_eq hd
        cases hcontract.symm.trans hnative
      rw [Withdrawal.deductedFee_of_beside hdeduct, Amount.toNat_zero]
        at hsplit
      exact hsplit
    rcases told.locked_eq with ⟨-, left, hleft, hlocked⟩ | ⟨hmint, -⟩
    · have hafter : b'.lockedBalance id = left := by
        rw [Bridge.lockedBalance_of_write hlocked, if_pos hid]
      rw [hid] at hleft
      rcases told.released with
        ⟨hzero, -, hflying⟩ | ⟨custody, hne, hrelease, -, hflying⟩
      · refine .inr ⟨?_, fun m hm => ?_⟩
        · rw [hafter]
          apply Amount.ext
          omega
        · rw [hflying, idle] at hm
          cases hm
      · obtain ⟨-, -, hnote⟩ := Custody.release_eq_ok_iff.mp hrelease
        rw [hkind] at hnote
        refine .inl ⟨custody.check, hflying, SetOut.of_note hnote hid
          hcontract hne fun hunlock hamount => .unlocks hunlock ?_⟩
        rw [hamount, hafter]
        omega
    · rw [← told.kind_eq, hkind] at hmint
      cases hmint
  · refine .inr ⟨Bridge.lockedBalance_of_moved told.locked_eq hid,
      fun m hm => ?_⟩
    rcases told.released with
      ⟨-, -, hflying⟩ | ⟨custody, -, hrelease, -, hflying⟩
    · rw [hflying, idle] at hm
      cases hm
    · rw [hflying] at hm
      cases hm
      obtain ⟨-, -, hnote⟩ := Custody.release_eq_ok_iff.mp hrelease
      obtain ⟨-, -, hm⟩ := Custody.note_eq_ok_iff.mp hnote
      rw [hm]
      exact hid

/-- A request sets out a movement of the token, and shifts what is locked of
it by the amount, or it does neither. -/
theorem Handled.setsOut {r : Request}
    (h : Handled b c sender funds receipt b' r) (idle : b.inFlight = none)
    (kept : TokensKept b.tokens b.locked) (capped : RatesCapped b)
    (placed : b.withdrawals.Every (FeePlaced b.tokens))
    (held : b.HeldContract id) :
    (∃ m, b'.inFlight = some m ∧ SetOut id b b' c m)
      ∨ (b'.lockedBalance id = b.lockedBalance id
        ∧ ∀ m, b'.inFlight = some m → m.token.id ≠ id) := by
  have hrest : b'.inFlight = b.inFlight → b'.locked = b.locked →
      b'.lockedBalance id = b.lockedBalance id
        ∧ ∀ m, b'.inFlight = some m → m.token.id ≠ id := by
    intro hflying hlocked
    refine ⟨?_, fun m hm => ?_⟩
    · unfold Bridge.lockedBalance
      rw [hlocked]
    · rw [hflying, idle] at hm
      cases hm
  cases h with
  | deposit brought told =>
      exact told.setsOut brought idle kept capped held
  | execute asks told =>
      exact told.setsOut idle kept placed held
  | submit told => exact .inr (hrest (by rw [told.after]) (by rw [told.after]))
  | approve told => exact .inr (hrest (by rw [told.after]) (by rw [told.after]))
  | cancel told => exact .inr (hrest (by rw [told.after]) (by rw [told.after]))
  | uncancel told =>
      exact .inr (hrest (by rw [told.after]) (by rw [told.after]))
  | administer only told =>
      exact .inr (hrest (by rw [told.frame]) (by rw [told.frame]))

end

-- =============================================================== the report

/-- An accepted report found every balance changed by the amount. -/
theorem Bridge.verified_of_reply {b b' : Bridge} {c : Context} {m : Movement}
    {replyId : UInt64} {failure : Option String} {receipt : Receipt}
    (hm : b.inFlight = some m)
    (h : b.reply c replyId failure = .ok (receipt, b')) :
    ∃ thisAfter accountAfter, c.balance m.token c.self = .ok thisAfter
      ∧ c.balance m.token m.account = .ok accountAfter
      ∧ ∀ side found, (side, found) ∈ m.changes thisAfter accountAfter →
        found = m.amount := by
  rcases reply_cases hm c replyId failure with ⟨hnone, -⟩ | ⟨e, -, herr⟩
  · cases hthis : c.balance m.token c.self with
    | error e => exact absurd (.unanswered (.inl rfl) hthis) (hnone e)
    | ok thisAfter =>
        cases haccount : c.balance m.token m.account with
        | error e => exact absurd (.unanswered (.inr rfl) haccount) (hnone e)
        | ok accountAfter =>
            refine ⟨thisAfter, accountAfter, rfl, rfl,
              fun side found hmem => ?_⟩
            by_contra hdiffers
            exact hnone _ (.wrong hthis haccount hmem hdiffers)
  · rw [h] at herr
    cases herr

/-- What is verified moves with what is locked: if the balance covered what
was locked when the movement set out, it still does. -/
theorem LockShift.le_after {id : String} {b b' : Bridge} {m : Movement}
    {thisAfter accountAfter : Amount} (h : LockShift id b b' m)
    (amount_ne : m.amount.toNat ≠ 0)
    (verified : ∀ side found,
      (side, found) ∈ m.changes thisAfter accountAfter → found = m.amount)
    (covered : (b.lockedBalance id).toNat ≤ m.thisBefore.toNat) :
    (b'.lockedBalance id).toNat ≤ thisAfter.toNat := by
  unfold Movement.changes at verified
  cases h with
  | locks kind sum =>
      rw [kind] at verified
      have hgain := congrArg Amount.toNat
        (verified .lockThis _ List.mem_cons_self)
      rw [Amount.toNat_excess] at hgain
      omega
  | unlocks kind sum =>
      rw [kind] at verified
      have hloss := congrArg Amount.toNat
        (verified .unlockThis _ (List.mem_cons_of_mem _ List.mem_cons_self))
      rw [Amount.toNat_excess] at hloss
      omega

/-- A report settles a token when it is accepted and its movement was of the
token. -/
theorem Session.settles_iff {s : Session} {id : String} {x : Session.Step} :
    s.settles id x = true ↔
      ∃ replyId failure m receipt b', x = .reply replyId failure
        ∧ s.bridge.inFlight = some m ∧ m.token.id = id
        ∧ s.bridge.reply s.context replyId failure = .ok (receipt, b') := by
  constructor
  · intro h
    cases x with
    | reply replyId failure =>
        unfold settles at h
        rw [Bool.and_eq_true] at h
        obtain ⟨hnamed, hok⟩ := h
        cases hm : s.bridge.inFlight with
        | none => rw [hm] at hnamed; cases hnamed
        | some m =>
            rw [hm] at hnamed
            cases hreply : s.bridge.reply s.context replyId failure with
            | error e => rw [hreply] at hok; cases hok
            | ok result =>
                exact ⟨replyId, failure, m, result.1, result.2, rfl, rfl,
                  beq_iff_eq.mp hnamed, hreply⟩
    | _ => cases h
  · rintro ⟨replyId, failure, m, receipt, b', rfl, hm, hnamed, hreply⟩
    show (s.bridge.inFlight.any (fun m => m.token.id == id)
      && (s.bridge.reply s.context replyId failure).isOk) = true
    rw [hm, hreply, Bool.and_eq_true]
    exact ⟨beq_iff_eq.mpr hnamed, rfl⟩

/-- The balance of the token is what its contract reports. -/
theorem Session.balance_of_contract {s : Session} {id : String}
    {token : Token} {balance : Amount} (contract : token.isNative = false)
    (named : token.id = id) :
    s.context.balance token s.context.self = .ok balance ↔
      s.reported id = .ok balance := by
  unfold Context.balance Outcome.ofHost
  rw [contract, if_neg Bool.false_ne_true, mapError_eq_ok_iff, named]
  rfl

-- ============================================================ the invariant

/-- What is locked of a token, in the state that stands, is no more than the
last accepted report on it saw. A movement in flight is what the present
state is off by, and set out from no less. -/
structure Solvent (id : String) (s : Session) (seen : Nat) : Prop where
  /-- What is locked, if the movement fails, was seen. -/
  stands : ((s.checkpoint.getD s.bridge).lockedBalance id).toNat ≤ seen
  /-- A movement of the token set out from at least what was seen. -/
  flying : ∀ m, s.bridge.inFlight = some m → m.token.id = id →
    m.token.isNative = false ∧ m.amount.toNat ≠ 0
      ∧ seen ≤ m.thisBefore.toNat
      ∧ LockShift id (s.checkpoint.getD s.bridge) s.bridge m
  /-- A movement of another token has not moved this ledger. -/
  still : (∀ m, s.bridge.inFlight = some m → m.token.id ≠ id) →
    s.bridge.lockedBalance id = (s.checkpoint.getD s.bridge).lockedBalance id

namespace Solvent

variable {id : String} {s s' : Session} {hist : History} {seen : Nat}

/-- Whatever was locked or unlocked, an accepted report sees it covered. -/
theorem covered (h : Solvent id s seen) {x : Session.Step}
    (hx : s.settles id x = true) :
    ∃ balance, s.reported id = .ok balance
      ∧ (s.bridge.lockedBalance id).toNat ≤ balance.toNat := by
  obtain ⟨replyId, failure, m, receipt, b', -, hm, hnamed, hreply⟩ :=
    Session.settles_iff.mp hx
  obtain ⟨hcontract, hne, hseen, hshift⟩ := h.flying m hm hnamed
  obtain ⟨thisAfter, accountAfter, hthis, -, hverified⟩ :=
    Bridge.verified_of_reply hm hreply
  refine ⟨thisAfter,
    (Session.balance_of_contract hcontract hnamed).mp hthis, ?_⟩
  exact hshift.le_after hne hverified (Nat.le_trans h.stands hseen)

/-- With nothing in flight, all that counts is what is locked. -/
theorem of_idle (idle : s.bridge.inFlight = none)
    (none : s.checkpoint = none)
    (hle : (s.bridge.lockedBalance id).toNat ≤ seen) : Solvent id s seen := by
  refine ⟨?_, fun m hm => ?_, fun _ => ?_⟩
  · rw [none]
    exact hle
  · rw [idle] at hm
    cases hm
  · rw [none]
    rfl

/-- What is locked is covered while nothing of the token is in flight. -/
theorem locked_le (h : Solvent id s seen)
    (other : ∀ m, s.bridge.inFlight = some m → m.token.id ≠ id) :
    (s.bridge.lockedBalance id).toNat ≤ seen := by
  rw [h.still other]
  exact h.stands

/-- A step that leaves the bridge alone, but for the version mark. -/
theorem quiet (h : Solvent id s seen) {version : Option Version}
    (bridge : s'.bridge = { s.bridge with version })
    (checkpoint : s'.checkpoint = s.checkpoint) : Solvent id s' seen := by
  have hstands : (s'.checkpoint.getD s'.bridge).lockedBalance id
      = (s.checkpoint.getD s.bridge).lockedBalance id := by
    rw [checkpoint, bridge]
    cases s.checkpoint with
    | none => rfl
    | some b => rfl
  have hnow : s'.bridge.lockedBalance id = s.bridge.lockedBalance id := by
    rw [bridge]
    rfl
  have hflying : s'.bridge.inFlight = s.bridge.inFlight := by rw [bridge]
  refine ⟨?_, fun m hm hnamed => ?_, fun hother => ?_⟩
  · rw [hstands]
    exact h.stands
  · rw [hflying] at hm
    obtain ⟨hcontract, hne, hseen, hshift⟩ := h.flying m hm hnamed
    refine ⟨hcontract, hne, hseen, ?_⟩
    cases hshift with
    | locks kind sum =>
        refine .locks kind ?_
        rw [hstands, hnow]
        exact sum
    | unlocks kind sum =>
        refine .unlocks kind ?_
        rw [hstands, hnow]
        exact sum
  · rw [hflying] at hother
    rw [hnow, hstands]
    exact h.still hother

/-- A request that is taken, if what it sets out of the token is covered. -/
theorem took (h : Solvent id s seen) (hc : Coherent s hist)
    {t : Taken} (before : t.before = s)
    (setsOut : (∃ m, t.after.inFlight = some m
          ∧ SetOut id s.bridge t.after s.context m)
        ∨ (t.after.lockedBalance id = s.bridge.lockedBalance id
          ∧ ∀ m, t.after.inFlight = some m → m.token.id ≠ id))
    (covered : ∀ m balance, t.after.inFlight = some m → m.token.id = id →
      s.reported id = .ok balance → seen ≤ balance.toNat) :
    Solvent id
      { s with
        bridge := t.after
        checkpoint := if t.receipt.awaits then some s.bridge else s.checkpoint }
      seen := by
  have hidle : s.bridge.inFlight = none := by rw [← before]; exact t.idle
  have hnone := hc.checkpoint_eq_none hidle
  have hle : (s.bridge.lockedBalance id).toNat ≤ seen :=
    h.locked_le fun m hm => by rw [hidle] at hm; cases hm
  have hawaits := t.handled.awaits_eq t.idle
  cases hm : t.after.inFlight with
  | none =>
      -- nothing was sent, so nothing of the token was locked or unlocked
      rw [hm] at hawaits
      rw [hawaits]
      refine .of_idle hm hnone ?_
      rcases setsOut with ⟨m, hm', -⟩ | ⟨hsame, -⟩
      · rw [hm] at hm'
        cases hm'
      · show (t.after.lockedBalance id).toNat ≤ seen
        rw [hsame]
        exact hle
  | some m =>
      rw [hm] at hawaits
      rw [hawaits]
      refine ⟨hle, fun m' hm' hnamed => ?_, fun hother => ?_⟩
      · rcases setsOut with ⟨m₁, hm₁, hset⟩ | ⟨-, hother⟩
        -- the movement that sets out was asked for its balance at this moment
        · have hsame : m₁ = m' := Option.some.inj (hm₁.symm.trans hm')
          subst hsame
          refine ⟨hset.contract, hset.amount_ne, ?_, hset.shift⟩
          exact covered m₁ m₁.thisBefore hm₁ hnamed
            ((Session.balance_of_contract hset.contract hnamed).mp hset.before)
        · exact absurd hnamed (hother m' hm')
      · rcases setsOut with ⟨m₁, hm₁, hset⟩ | ⟨hsame, -⟩
        · exact absurd hset.named (hother m₁ hm₁)
        · exact hsame

end Solvent

/-- A report that is accepted: on the token it is what was seen; on another
nothing of the token has changed. -/
theorem Solvent.accepted {id : String} {s : Session} {seen : Nat}
    (h : Solvent id s seen) {replyId : UInt64} {failure : Option String}
    {receipt : Receipt} {b' : Bridge}
    (hreply : s.bridge.reply s.context replyId failure = .ok (receipt, b')) :
    Solvent id { s with bridge := b', checkpoint := none }
      (s.seenAfter id seen (.reply replyId failure)) := by
  obtain ⟨⟨m, hm⟩, rfl, -⟩ := Bridge.reply_eq_ok hreply
  refine .of_idle rfl rfl ?_
  show (s.bridge.lockedBalance id).toNat ≤ _
  by_cases hnamed : m.token.id = id
  · have hsettles : s.settles id (.reply replyId failure) = true :=
      Session.settles_iff.mpr ⟨_, _, m, _, _, rfl, hm, hnamed, hreply⟩
    obtain ⟨balance, hbalance, hle⟩ := h.covered hsettles
    unfold Session.seenAfter
    rw [if_pos hsettles, hbalance]
    exact hle
  · have hother : ∀ m', s.bridge.inFlight = some m' → m'.token.id ≠ id := by
      intro m' hm'
      rw [hm] at hm'
      cases hm'
      exact hnamed
    have hnot : s.settles id (.reply replyId failure) = false := by
      rw [Bool.eq_false_iff]
      intro hsettles
      obtain ⟨_, _, m', _, _, _, hm', hnamed', -⟩ :=
        Session.settles_iff.mp hsettles
      exact hother m' hm' hnamed'
    rw [Session.seenAfter_of_not_settles hnot]
    exact h.locked_le hother

/-- A report that is refused brings back the state that stands. -/
theorem Solvent.refused {id : String} {s : Session} {seen : Nat}
    (h : Solvent id s seen) {history : History} (hc : Coherent s history) :
    Solvent id
      { s with bridge := s.checkpoint.getD s.bridge, checkpoint := none }
      seen := by
  have hmoved : Coherent
      { s with bridge := s.checkpoint.getD s.bridge, checkpoint := none }
      (history.report false) := hc.moved .refused
  refine .of_idle ?_ rfl h.stands
  exact Option.isNone_iff_eq_none.mp
    (Option.isSome_eq_false_iff.mp hmoved.flying)

/-- A report keeps the ledger covered: an accepted one has seen it covered, a
refused one puts the covered state back. -/
theorem Solvent.reply {id : String} {s : Session} {seen : Nat}
    (h : Solvent id s seen) {history : History} (hc : Coherent s history)
    (replyId : UInt64) (failure : Option String) :
    Solvent id (s.step (.reply replyId failure)).1
      (s.seenAfter id seen (.reply replyId failure)) := by
  cases hresult : s.bridge.reply s.context replyId failure with
  | ok result =>
      obtain ⟨receipt, b'⟩ := result
      rw [Session.step_reply_of_ok hresult]
      exact h.accepted hresult
  | error e =>
      have hnot : s.settles id (.reply replyId failure) = false := by
        unfold Session.settles
        simp only [hresult]
        exact Bool.and_false _
      rw [Session.step_reply_of_error hresult,
        Session.seenAfter_of_not_settles hnot]
      exact h.refused hc

-- ================================================================ every run

/-- Under a name that a contract's token has in the end, no other kind of
token was registered before. -/
theorem Run.heldContract_before {r : Run} {x : Session.Step}
    {hx : ∀ setup, x ≠ .setUp setup} {id : String}
    (h : (r.extend x hx).last.bridge.HeldContract id) :
    r.last.bridge.HeldContract id := by
  intro token hfound
  obtain ⟨enabled, hafter⟩ :=
    (r.moved x hx).token_stays r.coherent r.held hfound
  exact (h _ hafter :)

/-- If every movement of the token sets out covered, the state that stands
is covered by what the last accepted report saw. -/
theorem Run.solvent (r : Run) {id : String}
    (covered : r.EveryStep (Run.SetsOutCovered id))
    (held : r.last.bridge.HeldContract id) :
    Solvent id r.last (r.seen id) := by
  refine covered.induction
    (q := fun r => r.last.bridge.HeldContract id →
      Solvent id r.last (r.seen id)) ?fresh ?extend held
  case fresh =>
    intro o _
    obtain ⟨settings, -, hb, -⟩ := Bridge.setUp_eq_ok o.success
    have hidle : o.bridge.inFlight = none := by rw [hb]; rfl
    have hlocked : (o.bridge.lockedBalance id).toNat = 0 := by rw [hb]; rfl
    exact .of_idle hidle rfl (Nat.le_of_eq hlocked)
  case extend =>
    intro r x hx hcovered ih hafter
    have hbefore := Run.heldContract_before hafter
    have h := ih hbefore
    rw [Run.last_extend, Run.seen_extend]
    cases hreply : x.isReply with
    | true =>
        cases x with
        | reply replyId failure => exact h.reply r.coherent replyId failure
        | _ => cases hreply
    | false =>
        rw [Session.seenAfter_of_not_settles
          (Session.settles_of_not_reply hreply)]
        cases ht : r.last.takenBy x with
        | none =>
            obtain ⟨version, hbridge, hcheckpoint⟩ :=
              Session.step_quiet hx ht hreply
            exact h.quiet hbridge hcheckpoint
        | some t =>
            have hsame := Session.before_of_takenBy ht
            obtain ⟨⟨hkept, hcapped⟩, hplaced⟩ :=
              (((tokensKept_invariant.and ratesCapped_invariant).and
                feesPlaced_invariant).throughout r).now
            have handled := t.handled
            have hidle := t.idle
            rw [hsame] at handled hidle
            rw [Session.step_of_takenBy ht]
            refine h.took r.coherent hsame
              (handled.setsOut hidle hkept hcapped hplaced hbefore) ?_
            exact fun m balance => hcovered.last t m balance ht

/-- Before any report nothing was seen. -/
theorem Run.seen_eq_zero {r : Run} (h : ∀ x ∈ r.steps, x.isReply = false)
    (id : String) : r.seen id = 0 := by
  induction r using Run.stepwise with
  | fresh o => rfl
  | extend r x hx ih =>
      have hlast : x.isReply = false :=
        h x (List.mem_append_right _ List.mem_cons_self)
      rw [Run.seen_extend, Session.seenAfter_of_not_settles
        (Session.settles_of_not_reply hlast)]
      exact ih fun y hy => h y (List.mem_append_left _ hy)

-- ============================================================ a sample lock

namespace Sample

/-- The token that the sample bridge holds. -/
def heldId : String := "terra1held"

theorem thousand_lt : 1000 < amountLimit := by decide

/-- The amount that is deposited. -/
def thousand : Amount := ⟨1000, thousand_lt⟩

/-- The bridge there, with a contract's token besides that it holds, and an
account that has some. -/
def readyHeld : Run :=
  readyThere.extend (.setTokens heldId user thousand) nofun
    |>.extend (.take "admin" [] (.addToken heldId false .lockUnlock 6)) nofun
    |>.extend (.take "admin" []
        (.setCounterpart heldId hereChain.toList token.toList 6)) nofun

/-- A deposit of a thousand is taken, and the contract moves what is left
after the fee. -/
def fetched : Run :=
  readyHeld.extend
      (.take user [] (.depositToken heldId thousand hereChain.toList
        account.toList)) nofun
    |>.extend (.setTokens heldId Session.bridgeAddress amount) nofun
    |>.extend (.setTokens heldId user deposit.fee) nofun

/-- The report on the movement. -/
def arrival : Session.Step := .reply custodyReplyId none

/-- The movement is reported on. -/
def arrived : Run := fetched.extend arrival nofun

/-- Before the report a contract's token is on its way, and nothing was
reported yet. -/
theorem fetched_state :
    (fetched.last.bridge.tokens.get? heldId).map
        (fun token => (token.isNative, token.kind)) = some (false, .lockUnlock)
      ∧ fetched.last.settles heldId arrival = true
      ∧ ∀ x ∈ fetched.steps, x.isReply = false := by
  decide +kernel

/-- It is the first, so nothing was seen that it could fall short of. -/
theorem covered_fetched : fetched.EveryStep (Run.SetsOutCovered heldId) := by
  intro r x hx honward t m balance _ _ _ _
  have hquiet : ∀ y ∈ r.steps, y.isReply = false := fun y hy =>
    fetched_state.2.2 y
      (honward.mem_steps (List.mem_append_left _ hy))
  rw [Run.seen_eq_zero hquiet]
  exact Nat.zero_le _

end Sample

-- ============================================================= every report

/-- Take a contract's token that the bridge holds. If, whenever a movement
of it sets out, the bridge is reported to hold no less of it than the last
accepted report saw, then right after every accepted report on it the bridge
is reported to hold all that is locked, whatever the contract kept, changed
or refused in between. -/
theorem Run.solvent_after_report (r : Run) {id : String} {token : Token}
    (found : r.last.bridge.tokens.get? id = some token)
    (contract : token.isNative = false) (held : token.kind = .lockUnlock)
    (covered : r.EveryStep (Run.SetsOutCovered id)) {x : Session.Step}
    (hx : ∀ setup, x ≠ .setUp setup) (settles : r.last.settles id x = true) :
    ∃ balance, (r.extend x hx).last.reported id = .ok balance
      ∧ ((r.extend x hx).last.bridge.lockedBalance id).toNat
        ≤ balance.toNat := by
  have hname : r.last.bridge.HeldContract id := by
    intro token' hfound'
    rw [found] at hfound'
    cases hfound'
    exact ⟨contract, held⟩
  obtain ⟨balance, hbalance, hle⟩ := (r.solvent covered hname).covered settles
  obtain ⟨replyId, failure, m, receipt, b', rfl, hm, -, hreply⟩ :=
    Session.settles_iff.mp settles
  rw [Run.last_extend, Session.step_reply_of_ok hreply]
  obtain ⟨-, rfl, -⟩ := Bridge.reply_eq_ok hreply
  exact ⟨balance, hbalance, hle⟩

/-- The report on a first deposit sees all that the deposit locked. -/
theorem Run.solvent_after_first_deposit :
    Sample.fetched.EveryStep (Run.SetsOutCovered Sample.heldId)
      ∧ Sample.fetched.last.settles Sample.heldId Sample.arrival = true
      ∧ ∃ balance, Sample.arrived.last.reported Sample.heldId = .ok balance
        ∧ (Sample.arrived.last.bridge.lockedBalance Sample.heldId).toNat
          ≤ balance.toNat := by
  obtain ⟨hkind, hsettles, -⟩ := Sample.fetched_state
  obtain ⟨token, hfound, htoken⟩ := Option.map_eq_some_iff.mp hkind
  have harrival : ∀ setup, Sample.arrival ≠ .setUp setup := by
    intro setup h
    cases h
  have harrived : Sample.arrived
      = Sample.fetched.extend Sample.arrival harrival := rfl
  rw [harrived]
  exact ⟨Sample.covered_fetched, hsettles,
    Run.solvent_after_report Sample.fetched hfound (congrArg Prod.fst htoken)
      (congrArg Prod.snd htoken) Sample.covered_fetched harrival hsettles⟩

end TokenBridge
