/-
The locked balances agree with the records, in every state.

What is locked of a token, and what was paid out of it, is what was
deposited. The three sides are three tables that different rules write: a
deposit writes the log and locks, a payout marks a withdrawal and unlocks,
and nothing else touches either. The two amounts of a payout are the same
because it is computed from fields of the withdrawal that never change. A
deposit is counted by its nonce, so the identity leans on the index that
leads from nonces to deposits, and on hashes that do not collide.

Of a token that the bridge burns and mints nothing is ever locked. A name
that nobody has registered yet counts as held until it is, so that both
halves start from nothing with the registration.
-/
import TokenBridge.Proofs.Numbering
import TokenBridge.Proofs.Registry

namespace TokenBridge

-- ============================================================ the two sides

/-- What a withdrawal pays out, nothing where the payout is no amount. -/
def Withdrawal.payoutUnits (w : Withdrawal) : Nat :=
  match w.payout with
  | .ok payout => payout.toNat
  | .error _ => 0

/-- What a withdrawal has paid out of a token. -/
def Withdrawal.paidUnits (token : String) (w : Withdrawal) : Nat :=
  if w.marks.executed = true ∧ w.token = token then w.payoutUnits else 0

/-- What a deposit has brought of a token. -/
def Deposit.broughtUnits (token : String) (d : Deposit) : Nat :=
  if d.token = token then d.amount.toNat else 0

/-- What withdrawals have paid out of a token. -/
def paidOut (withdrawals : Table Word Withdrawal) (token : String) : Nat :=
  withdrawals.total (Withdrawal.paidUnits token)

/-- What the deposits that have a nonce have brought of a token. -/
def broughtIn (log : Table Word Deposit) (index : Table UInt64 Word)
    (token : String) : Nat :=
  index.total fun hash => log.share (Deposit.broughtUnits token) hash

/-- The payout of a record that has one, in units of its token. -/
theorem Withdrawal.payoutUnits_eq {w : Withdrawal} {payout : Amount}
    (h : w.payout = .ok payout) : w.payoutUnits = payout.toNat := by
  unfold payoutUnits
  rw [h]

theorem Withdrawal.paidUnits_of_not_executed {w : Withdrawal}
    (token : String) (h : w.marks.executed = false) :
    w.paidUnits token = 0 := by
  unfold paidUnits
  simp [h]

/-- Nothing is paid by writing a withdrawal that is not executed, over
nothing or over one that is not executed. -/
theorem paidOut_insert_unpaid {withdrawals : Table Word Withdrawal}
    {hash : Word} {w : Withdrawal} (token : String)
    (hold : ∀ u, withdrawals.get? hash = some u → u.marks.executed = false)
    (hnew : w.marks.executed = false) :
    paidOut (withdrawals.insert hash w) token = paidOut withdrawals token := by
  have hw := Withdrawal.paidUnits_of_not_executed token hnew
  unfold paidOut
  cases hu : withdrawals.get? hash with
  | none =>
      rw [Table.total_insert_absent _ _ hu, hw, Nat.add_zero]
  | some u =>
      have := Table.total_insert_over (Withdrawal.paidUnits token) w hu
      rw [hw, Withdrawal.paidUnits_of_not_executed token (hold u hu)] at this
      exact this

/-- A payout is counted once, when its withdrawal is marked. -/
theorem paidOut_execute {withdrawals : Table Word Withdrawal} {hash : Word}
    {w : Withdrawal} {payout : Amount} (token : String)
    (hfound : withdrawals.get? hash = some w)
    (hnot : w.marks.executed = false) (hpayout : w.payout = .ok payout) :
    paidOut (withdrawals.insert hash
        { w with marks := { w.marks with executed := true } }) token
      = paidOut withdrawals token
        + if w.token = token then payout.toNat else 0 := by
  have hnew : Withdrawal.paidUnits token
      { w with marks := { w.marks with executed := true } }
        = if w.token = token then payout.toNat else 0 := by
    rw [← Withdrawal.payoutUnits_eq hpayout]
    unfold Withdrawal.paidUnits
    simp only [true_and]
    rfl
  have := Table.total_insert_over (Withdrawal.paidUnits token)
    { w with marks := { w.marks with executed := true } } hfound
  rw [hnew, Withdrawal.paidUnits_of_not_executed token hnot] at this
  exact this

/-- A deposit under a nonce and a hash of its own adds what it brings. -/
theorem broughtIn_insert {log : Table Word Deposit}
    {index : Table UInt64 Word} (h : Indexed log index) {hash : Word}
    {d : Deposit} (token : String) (hnonce : index.get? d.nonce = none)
    (hhash : log.get? hash = none) :
    broughtIn (log.insert hash d) (index.insert d.nonce hash) token
      = broughtIn log index token + d.broughtUnits token := by
  have hself : (log.insert hash d).share (Deposit.broughtUnits token) hash
      = d.broughtUnits token :=
    Table.share_of_get? _ (Table.get?_insert_self _ _ _)
  -- every other nonce leads to another hash
  have hothers : (index.total fun hash' =>
      (log.insert hash d).share (Deposit.broughtUnits token) hash')
        = broughtIn log index token := by
    apply Table.total_congr
    intro k hash' hk
    obtain ⟨d', hd', -⟩ := h.logged hk
    have hne : hash ≠ hash' := by
      rintro rfl
      rw [hhash] at hd'
      cases hd'
    unfold Table.share
    rw [Table.get?_insert_ne _ hne]
  unfold broughtIn at hothers ⊢
  rw [Table.total_insert_absent _ _ hnonce, hself, hothers]

namespace Bridge

variable {b b' : Bridge}

/-- Writing one balance leaves all others. -/
theorem lockedBalance_of_write {id id' : String} {balance : Amount}
    (h : b'.locked = b.locked.insert id balance) :
    b'.lockedBalance id'
      = if id = id' then balance else b.lockedBalance id' := by
  unfold lockedBalance
  rw [h, Table.get?_insert]
  split <;> rfl

/-- A deposit or a payout leaves the balances of all other tokens. -/
theorem lockedBalance_of_moved {kind : TokenKind} {token id : String}
    {p : Amount → Prop}
    (h : (kind = .lockUnlock ∧ ∃ balance, p balance
        ∧ b'.locked = b.locked.insert token balance)
      ∨ (kind = .mintBurn ∧ b'.locked = b.locked)) (hne : token ≠ id) :
    b'.lockedBalance id = b.lockedBalance id := by
  rcases h with ⟨-, balance, -, hlocked⟩ | ⟨-, hlocked⟩
  · rw [lockedBalance_of_write hlocked, if_neg hne]
  · unfold lockedBalance
    rw [hlocked]

end Bridge

-- ============================================================= the identity

/-- The locked balances agree with what was brought in and paid out. -/
structure LedgerKept (b : Bridge) : Prop where
  /-- Of a token that is held, all that came in is locked or was paid out. -/
  held : ∀ id, (∀ token, b.tokens.get? id = some token →
      token.kind = .lockUnlock) →
    (b.lockedBalance id).toNat + paidOut b.withdrawals id
      = broughtIn b.deposits b.depositByNonce id
  /-- A token that is minted is not in the ledger at all. -/
  minted : ∀ {id token}, b.tokens.get? id = some token →
    token.kind = .mintBurn → b.locked.get? id = none
  /-- What is paid has a payout, so it can be counted. -/
  payable : ∀ hash w, b.withdrawals.get? hash = some w →
    w.marks.executed = true → ∃ payout, w.payout = .ok payout

namespace LedgerKept

variable {b b' : Bridge}

/-- At set-up nothing is locked, brought in or paid out. -/
theorem opened (o : Opening) : LedgerKept o.bridge := by
  obtain ⟨settings, -, hb, -⟩ := Bridge.setUp_eq_ok o.success
  rw [hb]
  refine ⟨fun id _ => rfl, fun _ _ => Table.get?_empty _, fun hash w hw => ?_⟩
  exact absurd (hw.symm.trans (Table.get?_empty hash)) nofun

/-- Writing a withdrawal that is not executed yet. -/
theorem write (h : LedgerKept b) {hash : Word} {w : Withdrawal}
    {claims : Table (ChainId × UInt64) Unit}
    (hold : ∀ u, b.withdrawals.get? hash = some u → u.marks.executed = false)
    (hnew : w.marks.executed = false) :
    LedgerKept
      { b with withdrawals := b.withdrawals.insert hash w, claims } := by
  refine ⟨fun id hid => ?_, h.minted, fun hash' w' hw' hexec => ?_⟩
  · rw [paidOut_insert_unpaid id hold hnew]
    exact h.held id hid
  · rw [Table.get?_insert] at hw'
    by_cases hk : hash = hash'
    · rw [if_pos hk] at hw'
      cases hw'
      rw [hnew] at hexec
      cases hexec
    · rw [if_neg hk] at hw'
      exact h.payable hash' w' hw' hexec

/-- Writing over a withdrawal that is not executed yet. -/
theorem rewrite (h : LedgerKept b) {hash : Word} {w w' : Withdrawal}
    {claims : Table (ChainId × UInt64) Unit}
    (hfound : b.withdrawals.get? hash = some w)
    (hold : w.marks.executed = false) (hnew : w'.marks.executed = false) :
    LedgerKept
      { b with withdrawals := b.withdrawals.insert hash w', claims } := by
  refine h.write (fun u hu => ?_) hnew
  rw [hfound] at hu
  cases hu
  exact hold

/-- Of the locked balances a deposit or a payout writes none of a token
that is minted. -/
theorem minted_moved (h : LedgerKept b) {kind : TokenKind} {token : Token}
    {p : Amount → Prop} (hkind : token.kind = kind)
    (hfound : b.tokens.get? token.id = some token)
    (htokens : b'.tokens = b.tokens)
    (hlocked : (kind = .lockUnlock ∧ ∃ balance, p balance
        ∧ b'.locked = b.locked.insert token.id balance)
      ∨ (kind = .mintBurn ∧ b'.locked = b.locked))
    {id : String} {other : Token} (hother : b'.tokens.get? id = some other)
    (hmint : other.kind = .mintBurn) : b'.locked.get? id = none := by
  rw [htokens] at hother
  have hbefore := h.minted hother hmint
  rcases hlocked with ⟨hheld, balance, -, hlocked⟩ | ⟨-, hlocked⟩
  · have hne : token.id ≠ id := by
      rintro rfl
      rw [hfound] at hother
      cases hother
      rw [hkind, hheld] at hmint
      cases hmint
    rw [hlocked, Table.get?_insert_ne _ hne]
    exact hbefore
  · rw [hlocked]
    exact hbefore

/-- A deposit of a locked token adds the same to both sides; one of another
token moves neither. -/
theorem deposit (h : LedgerKept b)
    (hindexed : Indexed b.deposits b.depositByNonce) {c : Context}
    {sender : Address} {token : Token} {amount : Amount}
    {destChain destAccount : List UInt8} {receipt : Receipt}
    (told : Deposited b c sender token amount destChain destAccount receipt b')
    (hfound : b.tokens.get? token.id = some token)
    (hnonce : b.depositByNonce.get? told.record.nonce = none)
    (hhash : b.deposits.get?
      (told.record.transfer told.settings.thisChain).hash = none) :
    LedgerKept b' := by
  have htokens : b'.tokens = b.tokens := by rw [told.after]
  have hrecords : b'.withdrawals = b.withdrawals := by rw [told.after]
  have hid : told.record.token = token.id :=
    congrArg Deposit.token told.record_eq
  have hnet : told.record.amount = told.charge.net :=
    congrArg Deposit.amount told.record_eq
  refine ⟨fun id hheld => ?_,
    h.minted_moved rfl hfound htokens told.locked_eq, ?_⟩
  · rw [htokens] at hheld
    have hbefore := h.held id hheld
    have hbrought : broughtIn b'.deposits b'.depositByNonce id
        = broughtIn b.deposits b.depositByNonce id
          + told.record.broughtUnits id := by
      rw [told.deposits_after, told.depositByNonce_after]
      exact broughtIn_insert hindexed id hnonce hhash
    rw [hrecords, hbrought]
    unfold Deposit.broughtUnits
    rw [hid, hnet]
    -- the token's own balance takes what was brought; any other stays
    by_cases he : token.id = id
    · subst he
      rw [if_pos rfl]
      rcases told.locked_eq with ⟨-, total, htotal, hlocked⟩ | ⟨hkind, -⟩
      · rw [Bridge.lockedBalance_of_write hlocked, if_pos rfl]
        omega
      · rw [hheld token hfound] at hkind
        cases hkind
    · rw [if_neg he, Bridge.lockedBalance_of_moved told.locked_eq he]
      exact hbefore
  · rw [hrecords]
    exact h.payable

/-- A payout of a locked token moves its amount from what is locked to what is
paid out. -/
theorem execute (h : LedgerKept b) {c : Context} {funds : List Coin}
    {kind : TokenKind} {bytes : List UInt8} {receipt : Receipt}
    (told : Executed b c funds kind bytes receipt b')
    (hfound : b.tokens.get? told.token.id = some told.token)
    (hnamed : told.token.id = told.found.token) : LedgerKept b' := by
  have htokens : b'.tokens = b.tokens := by rw [told.after]
  have hlog : b'.deposits = b.deposits := by rw [told.after]
  have hindex : b'.depositByNonce = b.depositByNonce := by rw [told.after]
  have hrecords : b'.withdrawals = b.withdrawals.insert told.hash
      { told.found with marks := { told.found.marks with executed := true } } :=
    (congrArg Bridge.withdrawals told.after :)
  refine ⟨fun id hheld => ?_,
    h.minted_moved told.kind_eq hfound htokens told.locked_eq,
    fun hash w hw hexec => ?_⟩
  · rw [htokens] at hheld
    have hbefore := h.held id hheld
    rw [hlog, hindex, hrecords, paidOut_execute id told.found_eq
      told.not_executed told.payout_eq, ← hnamed]
    by_cases he : told.token.id = id
    · rw [if_pos he]
      rcases told.locked_eq with ⟨-, left, hleft, hlocked⟩ | ⟨hkind, -⟩
      · rw [Bridge.lockedBalance_of_write hlocked, if_pos he]
        rw [he] at hleft
        omega
      · rw [he] at hfound
        rw [← told.kind_eq, hheld _ hfound] at hkind
        cases hkind
    · rw [if_neg he, Bridge.lockedBalance_of_moved told.locked_eq he]
      exact hbefore
  -- the record that is paid has its payout, and the others had theirs
  · rw [hrecords, Table.get?_insert] at hw
    by_cases hk : told.hash = hash
    · rw [if_pos hk] at hw
      cases hw
      exact ⟨told.payout, told.payout_eq⟩
    · rw [if_neg hk] at hw
      exact h.payable hash w hw hexec

/-- A new name has nothing locked; a known one keeps its kind. -/
theorem administer (h : LedgerKept b) {receipt : Receipt}
    (told : Administered b receipt b')
    (hkept : TokensKept b.tokens b.locked) : LedgerKept b' := by
  have hlocked : b'.locked = b.locked := by rw [told.frame]
  have hlog : b'.deposits = b.deposits := by rw [told.frame]
  have hindex : b'.depositByNonce = b.depositByNonce := by rw [told.frame]
  have hrecords : b'.withdrawals = b.withdrawals := by rw [told.frame]
  refine ⟨fun id hheld => ?_, fun {id token} hfound hmint => ?_, ?_⟩
  · have hbefore := h.held id fun token hfound => by
      obtain ⟨enabled, hafter⟩ := told.tokens.get? hfound
      exact (hheld _ hafter :)
    rw [hrecords, hlog, hindex]
    unfold Bridge.lockedBalance at hbefore ⊢
    rw [hlocked]
    exact hbefore
  · rw [hlocked]
    cases hbefore : b.tokens.get? id with
    | none => exact hkept.unlocked hbefore
    | some token₀ =>
        obtain ⟨enabled, hafter⟩ := told.tokens.get? hbefore
        rw [hfound] at hafter
        cases hafter
        exact h.minted hbefore hmint
  · rw [hrecords]
    exact h.payable

end LedgerKept

/-- The identity holds in every state, if no two buffers collide. -/
theorem ledgerKept_invariant :
    Invariant fun past b =>
      ((((LogSound b ∧ LogHashed past b) ∧ IndexDense b)
          ∧ (NoCollision past → Indexed b.deposits b.depositByNonce))
        ∧ TokensKept b.tokens b.locked)
      ∧ (NoCollision past → LedgerKept b) := by
  refine (indexed_invariant.and tokensKept_invariant).extendFree .opened
    ?kept (fun h => ⟨h.held, h.minted, h.payable⟩)
  intro past t hfree hbase h
  obtain ⟨⟨⟨⟨hsound, hhashed⟩, next, hnext, hdense⟩, hindexed⟩, hkept⟩ := hbase
  have handled := t.handled
  generalize t.request = r at handled
  cases handled with
  | deposit brought told =>
      -- without a collision the deposit's hash is new, so nothing on record is
      -- written over
      have habsent := told.get?_hash hsound hhashed hfree
      rw [told.nextNonce_eq] at hnext
      cases hnext
      exact h.deposit (hindexed hfree.prefix) told (brought.get?_token hkept)
        hdense.get?_next habsent
  | submit told =>
      rw [told.after]
      refine h.write (fun u hu => ?_) ?_
      · rw [told.fresh] at hu
        cases hu
      · rw [told.record_eq]
  | approve told =>
      rw [told.after]
      exact h.rewrite told.found_eq told.not_executed told.not_executed
  | cancel told =>
      rw [told.after]
      exact h.rewrite told.found_eq told.not_executed told.not_executed
  | uncancel told =>
      rw [told.after]
      exact h.rewrite told.found_eq told.not_executed told.not_executed
  | execute asks told =>
      obtain ⟨hnamed, hfound⟩ := hkept.get?_of_loadToken told.token_eq
      exact h.execute told hfound hnamed
  | administer only told => exact h.administer told hkept

-- ============================================================== every state

/-- In every state of a run in which no two buffers of deposits collide,
what is locked of a token that the bridge holds and what executed
withdrawals have paid out of it is what its numbered deposits have brought.
Of a token that is minted nothing is locked. -/
theorem Run.locked_ledger (r : Run) (hfree : NoCollision r.history.taken)
    {id : String} {token : Token}
    (hfound : r.last.bridge.tokens.get? id = some token) :
    (token.kind = .lockUnlock →
        (r.last.bridge.lockedBalance id).toNat
            + paidOut r.last.bridge.withdrawals id
          = broughtIn r.last.bridge.deposits r.last.bridge.depositByNonce id)
      ∧ (token.kind = .mintBurn → r.last.bridge.locked.get? id = none)
      ∧ ∀ hash w, r.last.bridge.withdrawals.get? hash = some w →
          w.marks.executed = true → ∃ payout, w.payout = .ok payout := by
  have hkept := (ledgerKept_invariant.throughout r).now.2 hfree
  refine ⟨fun hheld => hkept.held id fun token' hfound' => ?_,
    hkept.minted hfound, hkept.payable⟩
  rw [hfound] at hfound'
  cases hfound'
  exact hheld

/-- After a deposit all that it brought is locked. -/
theorem Run.deposit_locked :
    NoCollision Sample.deposited.history.taken
      ∧ (Sample.deposited.last.bridge.lockedBalance "uluna").toNat = 995
      ∧ 995 + paidOut Sample.deposited.last.bridge.withdrawals "uluna"
        = broughtIn Sample.deposited.last.bridge.deposits
            Sample.deposited.last.bridge.depositByNonce "uluna" := by
  obtain ⟨-, -, -, hbalance, hkind, -⟩ := Sample.deposited_state
  have hlocked :
      (Sample.deposited.last.bridge.lockedBalance "uluna").toNat = 995 := by
    rw [hbalance]
    rfl
  obtain ⟨token, hfound, hheld⟩ := Option.map_eq_some_iff.mp hkind
  obtain ⟨hledger, -, -⟩ := Run.locked_ledger Sample.deposited
    Sample.noCollision_deposited hfound
  have hsum := hledger hheld
  rw [hlocked] at hsum
  exact ⟨Sample.noCollision_deposited, hlocked, hsum⟩

end TokenBridge
