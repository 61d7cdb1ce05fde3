/-
What the set-up and the messages of the administrator leave alone.

No message of the administrator touches a deposit, a withdrawal, a claim, a
locked balance or the movement in flight, and none sends anything: the
frame of all fourteen is one record, `Administered`. It also says how far
the settings and the tokens can move, because the rest of the theory leans
on what stays: the chain's own name, the coin of the bridge, and of every
registered token its name, its nature and its decimals.
-/
import TokenBridge.Proofs.State
import TokenBridge.Proofs.Table
import TokenBridge.Administration
import TokenBridge.Handling

namespace TokenBridge

open Outcome

variable {b b' : Bridge} {sender : Address} {receipt : Receipt}

-- =================================================================== tokens

/-- How the token registry moves: not at all, by a new token, or by a
known one that is switched on or off. A new coin is always held. -/
inductive TokensMoved (before : Table String Token) :
    Table String Token → Prop
  | same : TokensMoved before before
  /-- A new token under a name that was free. -/
  | added {id : String} {token : Token} (absent : before.get? id = none)
      (named : token.id = id)
      (held : token.isNative = true → token.kind = .lockUnlock) :
      TokensMoved before (before.insert id token)
  /-- One that is known, enabled or disabled. -/
  | switched {id : String} {token : Token} (enabled : Bool)
      (found : before.get? id = some token) :
      TokensMoved before (before.insert id { token with enabled })

/-- A token that was registered still is, and all of it but its switch is
as before. -/
theorem TokensMoved.get? {before after : Table String Token}
    (h : TokensMoved before after) {id : String} {token : Token}
    (hfound : before.get? id = some token) :
    ∃ enabled, after.get? id = some { token with enabled } := by
  cases h with
  | same => exact ⟨token.enabled, hfound⟩
  | @added id' token' absent named held =>
      by_cases hid : id' = id
      · subst hid
        rw [absent] at hfound
        cases hfound
      · exact ⟨token.enabled, by rw [Table.get?_insert_ne _ hid, hfound]⟩
  | @switched id' token' enabled found =>
      by_cases hid : id' = id
      · subst hid
        rw [found] at hfound
        cases hfound
        exact ⟨enabled, Table.get?_insert_self _ _ _⟩
      · exact ⟨token.enabled, by rw [Table.get?_insert_ne _ hid, hfound]⟩

-- ================================================================= settings

/-- What no message changes of the settings, and what a changed window
has to be. -/
structure SettingsMoved (before after : Settings) : Prop where
  admin : after.admin = before.admin
  thisChain : after.thisChain = before.thisChain
  nativeDenom : after.nativeDenom = before.nativeDenom
  /-- The window can change, to an accepted length. -/
  reviewWindow : after.reviewWindow = before.reviewWindow
    ∨ ReviewWindow.isValid after.reviewWindow = true

/-- Settings have moved, if only by nothing at all. -/
theorem SettingsMoved.refl (s : Settings) : SettingsMoved s s :=
  ⟨rfl, rfl, rfl, .inl rfl⟩

/-- What a message of the administrator leaves alone. -/
structure Administered (b : Bridge) (receipt : Receipt) (b' : Bridge) :
    Prop where
  /-- The deposits, the withdrawals, the claims, the locked totals and what is
  in flight stay. -/
  frame : b' = { b with
    settings := b'.settings
    operators := b'.operators
    cancelers := b'.cancelers
    chains := b'.chains
    chainByIdentifier := b'.chainByIdentifier
    tokens := b'.tokens
    counterparts := b'.counterparts
    customRates := b'.customRates }
  settings : ∃ s s', b.settings = some s ∧ b'.settings = some s'
    ∧ SettingsMoved s s'
  tokens : TokensMoved b.tokens b'.tokens
  messages : receipt.messages = []

/-- The settings are there afterwards, too. -/
theorem Administered.settings_of {b b' : Bridge} {receipt : Receipt}
    {s : Settings} (e : Administered b receipt b')
    (hs : b.settings = some s) :
    ∃ s', b'.settings = some s' ∧ SettingsMoved s s' := by
  obtain ⟨s₀, s', hs₀, hs', hmoved⟩ := e.settings
  rw [hs] at hs₀
  cases hs₀
  exact ⟨s', hs', hmoved⟩

-- ==================================================================== roles

/-- Writing a role writes the place of this role and leaves everything else. -/
theorem Bridge.setRole_frame (b : Bridge) (role : Role) (set : RoleSet) :
    b.setRole role set = { b with
      operators := (b.setRole role set).operators
      cancelers := (b.setRole role set).cancelers } := by
  cases role with
  | operator => rfl
  | canceler => rfl

/-- Granting a role changes the roles only. -/
theorem Bridge.grantRole_frame {role : Role} {account : Address}
    (h : b.grantRole role account = .ok b') :
    b' = { b with operators := b'.operators, cancelers := b'.cancelers } := by
  simp only [grantRole, bind_eq_ok_iff, require_eq_ok_iff, pure_eq_ok_iff,
    exists_const] at h
  obtain ⟨-, set, -, rfl⟩ := h
  exact setRole_frame b role set

/-- Taking a role from an account writes no other place of the state. -/
theorem Bridge.revokeRole_frame {role : Role} {account : Address}
    (h : b.revokeRole role account = .ok b') :
    b' = { b with operators := b'.operators, cancelers := b'.cancelers } := by
  simp only [revokeRole, bind_eq_ok_iff, require_eq_ok_iff, pure_eq_ok_iff,
    exists_const] at h
  obtain ⟨-, rfl⟩ := h
  exact setRole_frame b role _

/-- Nor do grants one after the other, whatever accounts they are for: each
starts from what the one before it has left. -/
theorem Bridge.grantAll_frame {role : Role} :
    ∀ {accounts : List String} {b : Bridge},
      b.grantAll role accounts = .ok b' →
      b' = { b with operators := b'.operators, cancelers := b'.cancelers } := by
  intro accounts
  induction accounts with
  | nil =>
      intro b h
      cases h
      rfl
  | cons text rest ih =>
      intro b h
      simp only [grantAll, bind_eq_ok_iff] at h
      obtain ⟨account, -, b₁, hgrant, hrest⟩ := h
      have hfirst := grantRole_frame hgrant
      have hlater := ih hrest
      rw [hfirst] at hlater
      exact hlater

-- =================================================================== set-up

/-- The set-up chooses settings of its own, numbers deposits from one and
grants roles; it touches no table besides. -/
theorem Bridge.setUp_eq_ok {setup : Setup}
    (h : b.setUp setup = .ok (receipt, b')) :
    ∃ settings, ReviewWindow.isValid settings.reviewWindow = true
      ∧ b' = { b with
          version := b'.version
          settings := some settings
          nextNonce := some 1
          operators := b'.operators
          cancelers := b'.cancelers }
      ∧ receipt.messages = [] := by
  simp only [setUp, checkWindow, bind_eq_ok_iff, require_eq_ok_iff,
    pure_eq_ok_iff, exists_const, Prod.mk.injEq] at h
  obtain ⟨admin, -, recipient, -, chain, -, -, hwindow, _, -, b₁, hoperators,
    b₂, hcancelers, rfl, rfl⟩ := h
  have hfirst := grantAll_frame hoperators
  have hsecond := grantAll_frame hcancelers
  rw [hfirst] at hsecond
  refine ⟨?settings, ?window, ?frame, rfl⟩
  case frame => rw [hsecond]
  case window => exact hwindow

/-- The set-up has checked the name of the chain and the fees that it
chooses. -/
theorem Bridge.settings_of_setUp {setup : Setup}
    (h : b.setUp setup = .ok (receipt, b')) :
    ∃ settings, b'.settings = some settings
      ∧ ChainId.ofBytes setup.thisChain = .ok settings.thisChain
      ∧ checkFees settings.fees = .ok () := by
  simp only [setUp, bind_eq_ok_iff, pure_eq_ok_iff, mapError_eq_ok_iff,
    Prod.mk.injEq] at h
  obtain ⟨admin, -, recipient, -, chain, hchain, _, -, _, -, _, hfees, b₁,
    hoperators, b₂, hcancelers, -, rfl⟩ := h
  have hfirst := grantAll_frame hoperators
  have hsecond := grantAll_frame hcancelers
  rw [hfirst] at hsecond
  refine ⟨?settings, ?stored, ?chain, ?fees⟩
  case stored => rw [hsecond]
  case chain => exact hchain
  case fees => exact hfees

-- ============================================================= the messages

/-- A request that only the administrator may make. -/
def Request.isAdministrative : Request → Bool
  | .depositNative .. | .depositToken .. | .depositMintable .. => false
  | .submit .. | .approve .. | .cancel .. | .uncancel .. => false
  | .executeUnlock .. | .executeMint .. => false
  | _ => true

/-- A change of the fees is a message of the administrator and moves the
settings only, none of those that are fixed. -/
theorem Bridge.setFees_administered {change : FeeChange}
    (h : b.setFees sender change = .ok (receipt, b')) :
    Administered b receipt b' := by
  simp only [setFees, bind_eq_ok_iff, pure_eq_ok_iff,
    requireAdmin_eq_ok_iff, Prod.mk.injEq] at h
  obtain ⟨s, ⟨hs, -⟩, _, -, _, -, _, -, rfl, rfl⟩ := h
  exact ⟨rfl, ⟨s, _, hs, rfl, ⟨rfl, rfl, rfl, .inl rfl⟩⟩, .same, rfl⟩

/-- So is a change of the review window. -/
theorem Bridge.setReviewWindow_administered {seconds : UInt64}
    (h : b.setReviewWindow sender seconds = .ok (receipt, b')) :
    Administered b receipt b' := by
  simp only [setReviewWindow, checkWindow, bind_eq_ok_iff, require_eq_ok_iff,
    pure_eq_ok_iff, requireAdmin_eq_ok_iff, exists_const, Prod.mk.injEq] at h
  obtain ⟨s, ⟨hs, -⟩, hvalid, rfl, rfl⟩ := h
  exact ⟨rfl, ⟨s, _, hs, rfl, ⟨rfl, rfl, rfl, .inr hvalid⟩⟩, .same, rfl⟩

theorem Bridge.setPaused_administered {paused : Bool}
    (h : b.setPaused sender paused = .ok (receipt, b')) :
    Administered b receipt b' := by
  simp only [setPaused, bind_eq_ok_iff, pure_eq_ok_iff,
    requireAdmin_eq_ok_iff, Prod.mk.injEq] at h
  obtain ⟨s, ⟨hs, -⟩, rfl, rfl⟩ := h
  exact ⟨rfl, ⟨s, _, hs, rfl, ⟨rfl, rfl, rfl, .inl rfl⟩⟩, .same, rfl⟩

/-- A token is added under its own name, where none was before. Native or not,
its record says so. -/
theorem Bridge.addToken_administered {id : String} {isNative : Bool}
    {kind : TokenKind} {decimals : UInt8}
    (h : b.addToken sender id isNative kind decimals = .ok (receipt, b')) :
    Administered b receipt b' := by
  simp only [addToken, bind_eq_ok_iff, require_eq_ok_iff,
    requireAdmin_eq_ok_iff, exists_const, Bool.not_eq_true',
    Table.contains_eq_false_iff] at h
  obtain ⟨s, ⟨hs, -⟩, habsent, hheld, h⟩ := h
  have hheld' : isNative = true → kind = .lockUnlock := by
    intro hn
    rw [hn, Bool.true_and, decide_eq_false_iff_not,
      Decidable.not_not] at hheld
    exact hheld
  have hmoved : TokensMoved b.tokens
      (b.tokens.insert id { id, isNative, kind, decimals, enabled := true }) :=
    .added habsent rfl hheld'
  cases isNative with
  | true =>
      cases h
      exact ⟨rfl, ⟨s, s, hs, hs, .refl s⟩, hmoved, rfl⟩
  | false =>
      simp only [if_true, bind_eq_ok_iff, pure_eq_ok_iff,
        Prod.mk.injEq] at h
      obtain ⟨_, -, rfl, rfl⟩ := h
      exact ⟨rfl, ⟨s, s, hs, hs, .refl s⟩, hmoved, rfl⟩

/-- A token that is switched on or off stays the token it was. -/
theorem Bridge.setTokenEnabled_administered {id : String} {enabled : Bool}
    (h : b.setTokenEnabled sender id enabled = .ok (receipt, b')) :
    Administered b receipt b' := by
  simp only [setTokenEnabled, bind_eq_ok_iff, requireAdmin_eq_ok_iff] at h
  obtain ⟨s, ⟨hs, -⟩, h⟩ := h
  cases hfound : b.tokens.get? id with
  | none => rw [hfound] at h; cases h
  | some token =>
      rw [hfound] at h
      cases h
      exact ⟨rfl, ⟨s, s, hs, hs, .refl s⟩, .switched enabled hfound, rfl⟩

/-- Every message of the administrator stays inside the frame. -/
theorem Bridge.administered_of_handle {c : Context} {funds : List Coin}
    {r : Request} (hadmin : r.isAdministrative = true)
    (h : b.handle c sender funds r = .ok (receipt, b')) :
    Administered b receipt b' := by
  -- money and reviews first, as they are no messages of the administrator
  cases r with
  | depositNative | depositToken | depositMintable => cases hadmin
  | submit | approve | cancel | uncancel => cases hadmin
  | executeUnlock | executeMint => cases hadmin
  | setReviewWindow seconds => exact setReviewWindow_administered h
  | addRole role account =>
      simp only [handle, addRole, bind_eq_ok_iff, pure_eq_ok_iff,
        requireAdmin_eq_ok_iff, Prod.mk.injEq] at h
      obtain ⟨s, ⟨hs, -⟩, _, -, b₁, hgrant, rfl, rfl⟩ := h
      rw [grantRole_frame hgrant]
      exact ⟨rfl, ⟨s, s, hs, hs, .refl s⟩, .same, rfl⟩
  | removeRole role account =>
      simp only [handle, removeRole, bind_eq_ok_iff, pure_eq_ok_iff,
        requireAdmin_eq_ok_iff, Prod.mk.injEq] at h
      obtain ⟨s, ⟨hs, -⟩, _, -, b₁, hrevoke, rfl, rfl⟩ := h
      rw [revokeRole_frame hrevoke]
      exact ⟨rfl, ⟨s, s, hs, hs, .refl s⟩, .same, rfl⟩
  | registerChain identifier chain =>
      simp only [handle, registerChain, bind_eq_ok_iff, pure_eq_ok_iff,
        requireAdmin_eq_ok_iff, Prod.mk.injEq] at h
      obtain ⟨s, ⟨hs, -⟩, _, -, _, -, _, -, rfl, rfl⟩ := h
      exact ⟨rfl, ⟨s, s, hs, hs, .refl s⟩, .same, rfl⟩
  | unregisterChain chain =>
      simp only [handle, unregisterChain, bind_eq_ok_iff,
        requireAdmin_eq_ok_iff] at h
      obtain ⟨s, ⟨hs, -⟩, id, -, h⟩ := h
      cases hfound : b.chains.get? id with
      | none => rw [hfound] at h; cases h
      | some entry =>
          rw [hfound] at h
          cases h
          exact ⟨rfl, ⟨s, s, hs, hs, .refl s⟩, .same, rfl⟩
  | addToken token isNative kind decimals => exact addToken_administered h
  | setTokenEnabled token enabled => exact setTokenEnabled_administered h
  | setCounterpart token destChain destToken destDecimals =>
      simp only [handle, setCounterpart, bind_eq_ok_iff,
        requireAdmin_eq_ok_iff] at h
      obtain ⟨s, ⟨hs, -⟩, _, -, chain, -, h⟩ := h
      cases hword : Bytes.ofList? 32 destToken with
      | none => rw [hword] at h; cases h
      | some word =>
          rw [hword] at h
          cases h
          exact ⟨rfl, ⟨s, s, hs, hs, .refl s⟩, .same, rfl⟩
  | setFees change => exact setFees_administered h
  | setCustomRate account rate =>
      simp only [handle, setAccountRate, Bridge.setCustomRate,
        bind_eq_ok_iff, pure_eq_ok_iff, requireAdmin_eq_ok_iff,
        Prod.mk.injEq] at h
      obtain ⟨s, ⟨hs, -⟩, _, -, b₁, ⟨_, -, rfl⟩, rfl, rfl⟩ := h
      exact ⟨rfl, ⟨s, s, hs, hs, .refl s⟩, .same, rfl⟩
  | removeCustomRate account =>
      simp only [handle, removeAccountRate, bind_eq_ok_iff, pure_eq_ok_iff,
        requireAdmin_eq_ok_iff, Prod.mk.injEq] at h
      obtain ⟨s, ⟨hs, -⟩, _, -, rfl, rfl⟩ := h
      exact ⟨rfl, ⟨s, s, hs, hs, .refl s⟩, .same, rfl⟩
  | pause => exact setPaused_administered h
  | unpause => exact setPaused_administered h

end TokenBridge
