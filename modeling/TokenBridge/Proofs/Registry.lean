/-
What is always true of the registered tokens, and of the fees on
withdrawals.

A token is registered under its own name and never leaves the registry, a
coin is always one the bridge holds, and nothing is locked of a token that
is not registered. So the locked balance under a name can be read as coins
or as tokens of a contract once and for all. A fee that comes out of the
payout stands on coins only, and a fee that is not nothing has somebody to
get it.
-/
import TokenBridge.Proofs.History

namespace TokenBridge

-- =============================================================== the tokens

/-- What holds of the token registry and the locked balances. -/
structure TokensKept (tokens : Table String Token)
    (locked : Table String Amount) : Prop where
  named : ∀ {id token}, tokens.get? id = some token → token.id = id
  /-- Nobody but the chain can mint its coins. -/
  held : ∀ {id token}, tokens.get? id = some token →
    token.isNative = true → token.kind = .lockUnlock
  /-- An unknown token has nothing locked. -/
  unlocked : ∀ {id}, tokens.get? id = none → locked.get? id = none

namespace TokensKept

variable {tokens tokens' : Table String Token}
  {locked : Table String Amount} {id : String} {token : Token}

/-- Where no token is registered nothing stands under a name. -/
theorem empty : TokensKept Table.empty Table.empty := by
  refine ⟨fun h => ?_, fun h => ?_, fun _ => Table.get?_empty _⟩
  · rw [Table.get?_empty] at h
    cases h
  · rw [Table.get?_empty] at h
    cases h

/-- Balances are written for registered tokens only. -/
theorem write (h : TokensKept tokens locked)
    (hfound : tokens.get? id = some token) (amount : Amount) :
    TokensKept tokens (locked.insert id amount) := by
  refine ⟨h.named, h.held, fun {id'} habsent => ?_⟩
  have hne : id ≠ id' := by
    rintro rfl
    rw [hfound] at habsent
    cases habsent
  rw [Table.get?_insert_ne _ hne]
  exact h.unlocked habsent

/-- A written entry is looked up under its own name only. -/
theorem insert (h : TokensKept tokens locked) (named : token.id = id)
    (held : token.isNative = true → token.kind = .lockUnlock) :
    TokensKept (tokens.insert id token) locked := by
  have hcases : ∀ {id' t}, (tokens.insert id token).get? id' = some t →
      (id' = id ∧ t = token) ∨ tokens.get? id' = some t := by
    intro id' t ht
    rw [Table.get?_insert] at ht
    by_cases hk : id = id'
    · rw [if_pos hk] at ht
      exact .inl ⟨hk.symm, (Option.some.inj ht).symm⟩
    · rw [if_neg hk] at ht
      exact .inr ht
  refine ⟨fun ht => ?_, fun ht hnative => ?_, fun {id'} ht => ?_⟩
  · rcases hcases ht with ⟨rfl, rfl⟩ | hold
    · exact named
    · exact h.named hold
  · rcases hcases ht with ⟨-, rfl⟩ | hold
    · exact held hnative
    · exact h.held hold hnative
  · rw [Table.get?_insert] at ht
    by_cases hk : id = id'
    · rw [if_pos hk] at ht
      cases ht
    · rw [if_neg hk] at ht
      exact h.unlocked ht

/-- However the tokens move, a name keeps its token: entries are added under
free names and switched where they stand. -/
theorem moved (h : TokensKept tokens locked)
    (hm : TokensMoved tokens tokens') : TokensKept tokens' locked := by
  cases hm with
  | same => exact h
  | added absent named held => exact h.insert named held
  | @switched id token enabled found =>
      have hnamed := h.named found
      have hheld := h.held found
      exact h.insert hnamed hheld

/-- A token that can be used is registered under its own name. -/
theorem get?_of_loadToken {b : Bridge} (h : TokensKept b.tokens b.locked)
    (hload : b.loadToken id = .ok token) :
    token.id = id ∧ b.tokens.get? token.id = some token := by
  have hfound := (Bridge.loadToken_eq_ok_iff.mp hload).1
  have hname := h.named hfound
  exact ⟨hname, by rw [hname]; exact hfound⟩

end TokensKept

/-- Whatever a deposit brings is a token of the registry, under the name that
it has there. -/
theorem Brought.get?_token {b : Bridge} {funds : List Coin} {r : Request}
    {token : Token} {amount : Amount} {destChain destAccount : List UInt8}
    (h : Brought b funds r token amount destChain destAccount)
    (hkept : TokensKept b.tokens b.locked) :
    b.tokens.get? token.id = some token := by
  cases h with
  | coin attached found native kind => exact (hkept.get?_of_loadToken found).2
  | held attached found native kind => exact (hkept.get?_of_loadToken found).2
  | burned attached found native kind =>
      exact (hkept.get?_of_loadToken found).2

/-- At every moment the registry is in order: deposits and payouts write
balances of tokens they have looked up, and messages of the administrator add
and switch tokens. -/
theorem tokensKept_invariant :
    Invariant fun _ b => TokensKept b.tokens b.locked := by
  refine .ofBridge ?opened ?kept (fun h => h)
  case opened =>
    intro o
    obtain ⟨settings, -, hb, -⟩ := Bridge.setUp_eq_ok o.success
    rw [hb]
    exact .empty
  case kept =>
    intro b c sender funds receipt b' r idle handled h
    cases handled with
    | deposit brought told =>
        -- a deposit leaves the tokens alone and may write one balance
        have htokens : b'.tokens = b.tokens := by rw [told.after]
        rw [htokens]
        rcases told.locked_eq with ⟨-, total, -, hlocked⟩ | ⟨-, hlocked⟩
        · rw [hlocked]
          exact h.write (brought.get?_token h) total
        · rw [hlocked]
          exact h
    | execute asks told =>
        -- a payout does the same
        have htokens : b'.tokens = b.tokens := by rw [told.after]
        rw [htokens]
        rcases told.locked_eq with ⟨-, left, -, hlocked⟩ | ⟨-, hlocked⟩
        · rw [hlocked]
          exact h.write (h.get?_of_loadToken told.token_eq).2 left
        · rw [hlocked]
          exact h
    | administer only told =>
        have hlocked : b'.locked = b.locked := by rw [told.frame]
        rw [hlocked]
        exact h.moved told.tokens
    | submit told => rw [told.after]; exact h
    | approve told => rw [told.after]; exact h
    | cancel told => rw [told.after]; exact h
    | uncancel told => rw [told.after]; exact h

/-- What puts a movement in flight leaves the registry alone. -/
theorem Taken.tokens_eq_of_flying (t : Taken)
    (flying : t.after.inFlight.isSome = true) :
    t.after.tokens = t.before.bridge.tokens := by
  rcases t.handled.deposited_or_executed t.idle flying with
    ⟨token, amount, destChain, destAccount, -, ⟨told⟩⟩
      | ⟨kind, bytes, -, ⟨told⟩⟩
  · rw [told.after]
  · rw [told.after]

/-- No move of the session takes a token off the registry, or changes more
of it than its switch. -/
theorem Moved.token_stays {s s' : Session} {h h' : History}
    (hm : Moved s h s' h') (hc : Coherent s h) (hh : Held s h) {id : String}
    {token : Token} (hfound : s.bridge.tokens.get? id = some token) :
    ∃ enabled, s'.bridge.tokens.get? id = some { token with enabled } := by
  cases hm with
  | still bridge checkpoint =>
      exact ⟨token.enabled, by rw [bridge]; exact hfound⟩
  | migrated => exact ⟨token.enabled, hfound⟩
  | took t before =>
      subst before
      exact t.handled.tokensMoved.get? hfound
  | accepted flying => exact ⟨token.enabled, hfound⟩
  | refused =>
      show ∃ enabled, (s.checkpoint.getD s.bridge).tokens.get? id
        = some { token with enabled }
      rw [hc.pending]
      cases ht : h.pending with
      | none => exact ⟨token.enabled, hfound⟩
      | some t =>
          have hsame : s.bridge.tokens = t.after.tokens := by rw [hh t ht]
          rw [hsame, t.tokens_eq_of_flying (hh.flying hc ht)] at hfound
          exact ⟨token.enabled, hfound⟩

-- ================================================================= the fees

/-- Where a fee on a withdrawal comes from, and that somebody gets it. -/
structure FeePlaced (tokens : Table String Token) (w : Withdrawal) :
    Prop where
  coin : w.deductFee = true →
    ∃ token, tokens.get? w.token = some token ∧ token.isNative = true
  recipient : w.feeRecipient = none → w.fee.toNat = 0

/-- A fee is only taken out of coins. -/
theorem FeePlaced.native_of_deducts {b : Bridge} {w : Withdrawal}
    {token : Token} (h : FeePlaced b.tokens w)
    (htoken : b.loadToken w.token = .ok token)
    (deducts : w.deductFee = true) : token.isNative = true := by
  obtain ⟨token', hfound', hnative⟩ := h.coin deducts
  obtain ⟨hfound, -⟩ := Bridge.loadToken_eq_ok_iff.mp htoken
  cases hfound.symm.trans hfound'
  exact hnative

/-- The registry keeps the nature of every token, so fees stay placed. -/
theorem FeePlaced.moved {tokens tokens' : Table String Token}
    {w : Withdrawal} (h : FeePlaced tokens w)
    (hm : TokensMoved tokens tokens') : FeePlaced tokens' w := by
  refine ⟨fun hdeduct => ?_, h.recipient⟩
  obtain ⟨token, hfound, hnative⟩ := h.coin hdeduct
  obtain ⟨enabled, hafter⟩ := hm.get? hfound
  exact ⟨_, hafter, hnative⟩

/-- An approval leaves the fee as it was, or places a new one. -/
theorem Bridge.feePlaced_of_charged {b : Bridge} {w charged : Withdrawal}
    {fee : Option ApprovalFee} (h : FeePlaced b.tokens w)
    (hcharged : b.charged w fee = .ok charged) :
    FeePlaced b.tokens charged := by
  cases fee with
  | none =>
      cases hcharged
      exact h
  | some fee =>
      obtain ⟨token, recipient, htoken, hdeduct, -, -, rfl⟩ :=
        withFee_eq_ok hcharged
      refine ⟨fun hd => ?_, nofun⟩
      have hnative : token.isNative = true := by
        rw [← hdeduct]
        exact hd
      exact ⟨token, (loadToken_eq_ok_iff.mp htoken).1, hnative⟩

/-- At every moment every fee that is taken out of a payout is one of a native
token, and every fee that is due has somebody to receive it. Fees are set with
an approval and never again. -/
theorem feesPlaced_invariant :
    Invariant fun _ b => b.withdrawals.Every (FeePlaced b.tokens) := by
  refine .ofBridge ?opened ?kept (fun h => h)
  case opened =>
    intro o
    obtain ⟨settings, -, hb, -⟩ := Bridge.setUp_eq_ok o.success
    rw [hb]
    exact Table.every_empty _
  case kept =>
    intro b c sender funds receipt b' r idle handled h
    cases handled with
    | deposit brought told => rw [told.after]; exact h
    | submit told =>
        rw [told.after]
        apply h.insert
        rw [told.record_eq]
        exact ⟨nofun, fun _ => rfl⟩
    | approve told =>
        -- a fee is looked at against the registry of this very moment
        rw [told.after]
        have := Bridge.feePlaced_of_charged (h _ _ told.found_eq)
          told.charged_eq
        exact h.insert _ ⟨this.coin, this.recipient⟩
    | cancel told =>
        rw [told.after]
        have := h _ _ told.found_eq
        exact h.insert _ ⟨this.coin, this.recipient⟩
    | uncancel told =>
        rw [told.after]
        have := h _ _ told.found_eq
        exact h.insert _ ⟨this.coin, this.recipient⟩
    | execute asks told =>
        rw [told.after]
        have := h _ _ told.found_eq
        exact h.insert _ ⟨this.coin, this.recipient⟩
    | administer only told =>
        have hkept : b'.withdrawals = b.withdrawals := by rw [told.frame]
        rw [hkept]
        exact fun hash w hw => (h hash w hw).moved told.tokens

end TokenBridge
