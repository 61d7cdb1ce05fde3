/-
What each message of the administrator does, and who sent it.

The frame of these messages says what all of them leave alone; here is what
each of them writes, with the conditions under which it does. `Decided`
has one case for each, and the settings in it are those under which the
sender was found to be the administrator. A proof about the registry, the
roles or the fees looks at the cases that write there and at no rule.
-/
import TokenBridge.Proofs.History

namespace TokenBridge

open Outcome

/-- What a message of the administrator makes of a bridge with settings. -/
inductive Decided (b : Bridge) (s : Settings) : Request → Bridge → Prop
  | window {seconds : UInt64} (valid : ReviewWindow.isValid seconds = true) :
      Decided b s (.setReviewWindow seconds)
        { b with settings := some { s with reviewWindow := seconds } }
  /-- A role has room for one who does not have it. -/
  | granted {role : Role} {text : String} {account : Address}
      {set : RoleSet} (checked : checkAddress text = .ok account)
      (absent : (b.role role).contains account = false)
      (room : (b.role role).grant? account = some set) :
      Decided b s (.addRole role text) (b.setRole role set)
  | revoked {role : Role} {text : String} {account : Address}
      (checked : checkAddress text = .ok account)
      (present : (b.role role).contains account = true) :
      Decided b s (.removeRole role text)
        (b.setRole role ((b.role role).revoke account))
  /-- Both the name and the id are new, and each leads to the other. -/
  | chainAdded {identifier : String} {bytes : List UInt8} {id : ChainId}
      (named : identifier.isEmpty = false)
      (read : ChainId.ofBytes bytes = .ok id)
      (unnamed : b.chainByIdentifier.contains identifier = false)
      (absent : b.chains.contains id = false) :
      Decided b s (.registerChain identifier bytes)
        { b with
          chains :=
            b.chains.insert id ⟨id, identifier, keccak256 (utf8 identifier)⟩
          chainByIdentifier := b.chainByIdentifier.insert identifier id }
  /-- The name goes with the id it stood for. -/
  | chainRemoved {bytes : List UInt8} {id : ChainId} {entry : Chain}
      (read : ChainId.ofBytes bytes = .ok id)
      (found : b.chains.get? id = some entry) :
      Decided b s (.unregisterChain bytes)
        { b with
          chains := b.chains.erase id
          chainByIdentifier := b.chainByIdentifier.erase entry.identifier }
  /-- Coins are held; a contract's token is named by an address. -/
  | tokenAdded {id : String} {isNative : Bool} {kind : TokenKind}
      {decimals : UInt8} (absent : b.tokens.contains id = false)
      (held : isNative = true → kind = .lockUnlock)
      (checked : isNative = false → ∃ account, checkAddress id = .ok account) :
      Decided b s (.addToken id isNative kind decimals)
        { b with tokens :=
            b.tokens.insert id ⟨id, isNative, kind, decimals, true⟩ }
  | tokenSwitched {id : String} {enabled : Bool} {entry : Token}
      (found : b.tokens.get? id = some entry) :
      Decided b s (.setTokenEnabled id enabled)
        { b with tokens := b.tokens.insert id { entry with enabled } }
  /-- The chain has to be registered; the token may be disabled. -/
  | counterpartSet {id : String} {destChain destToken : List UInt8}
      {decimals : UInt8} {chain : ChainId} {token : Word}
      (known : b.tokens.contains id = true)
      (registered : b.registeredChain destChain = .ok chain)
      (read : Bytes.ofList? 32 destToken = some token) :
      Decided b s (.setCounterpart id destChain destToken decimals)
        { b with counterparts :=
            b.counterparts.insert (id, chain) ⟨token, decimals⟩ }
  /-- The schedule that comes of the change is in its bounds. -/
  | feesSet {change : FeeChange} {fees : Fee.Schedule}
      (accepted : checkFees fees = .ok ()) :
      Decided b s (.setFees change) { b with settings := some { s with fees } }
  /-- An account's own rate is under the cap, and its flag is up. -/
  | rateSet {text : String} {account : Address} {rate : UInt64}
      (checked : checkAddress text = .ok account)
      (accepted : Fee.checkRate rate = .ok ()) :
      Decided b s (.setCustomRate text rate)
        { b with customRates := b.customRates.insert account ⟨rate, true⟩ }
  | rateRemoved {text : String} {account : Address}
      (checked : checkAddress text = .ok account) :
      Decided b s (.removeCustomRate text)
        { b with customRates := b.customRates.erase account }
  | paused : Decided b s .pause
      { b with settings := some { s with paused := true } }
  | resumed : Decided b s .unpause
      { b with settings := some { s with paused := false } }

-- =============================================================== the guards

variable {b b' : Bridge} {sender : Address} {receipt : Receipt}

/-- A role is granted to an account that does not have it, while there is room
for one more. -/
theorem Bridge.grantRole_eq_ok {role : Role} {account : Address}
    (h : b.grantRole role account = .ok b') :
    (b.role role).contains account = false
      ∧ ∃ set, (b.role role).grant? account = some set
        ∧ b' = b.setRole role set := by
  simp only [grantRole, bind_eq_ok_iff, require_eq_ok_iff, pure_eq_ok_iff,
    ofOption_eq_ok_iff, exists_const, Bool.not_eq_true'] at h
  obtain ⟨habsent, set, hset, rfl⟩ := h
  exact ⟨habsent, set, hset, rfl⟩

/-- A role is taken from an account that has it. -/
theorem Bridge.revokeRole_eq_ok {role : Role} {account : Address}
    (h : b.revokeRole role account = .ok b') :
    (b.role role).contains account = true
      ∧ b' = b.setRole role ((b.role role).revoke account) := by
  simp only [revokeRole, bind_eq_ok_iff, require_eq_ok_iff, pure_eq_ok_iff,
    exists_const] at h
  obtain ⟨hpresent, rfl⟩ := h
  exact ⟨hpresent, rfl⟩

/-- A rate of an account's own is written if it is under the cap, and always
with its flag up. -/
theorem Bridge.setCustomRate_eq_ok {account : Address} {rate : UInt64}
    (h : b.setCustomRate account rate = .ok b') :
    Fee.checkRate rate = .ok ()
      ∧ b' = { b with
          customRates := b.customRates.insert account ⟨rate, true⟩ } := by
  simp only [setCustomRate, bind_eq_ok_iff, pure_eq_ok_iff,
    mapError_eq_ok_iff] at h
  obtain ⟨_, haccepted, rfl⟩ := h
  exact ⟨haccepted, rfl⟩

-- ============================================================= the messages

/-- A token is added under a name that is free. A native one has to be held, as
nobody else could mint it. -/
theorem Bridge.decided_of_addToken {id : String} {isNative : Bool}
    {kind : TokenKind} {decimals : UInt8}
    (h : b.addToken sender id isNative kind decimals = .ok (receipt, b')) :
    ∃ s, (b.settings = some s ∧ sender = s.admin)
      ∧ Decided b s (.addToken id isNative kind decimals) b' := by
  simp only [addToken, bind_eq_ok_iff, require_eq_ok_iff,
    requireAdmin_eq_ok_iff, exists_const, Bool.not_eq_true'] at h
  obtain ⟨s, hadmin, habsent, hheld, h⟩ := h
  have hheld' : isNative = true → kind = .lockUnlock := by
    intro hn
    rw [hn, Bool.true_and, decide_eq_false_iff_not,
      Decidable.not_not] at hheld
    exact hheld
  cases isNative with
  | true =>
      cases h
      refine ⟨s, hadmin, .tokenAdded habsent hheld' fun hnot => ?_⟩
      cases hnot
  | false =>
      simp only [if_true, bind_eq_ok_iff, pure_eq_ok_iff,
        Prod.mk.injEq] at h
      obtain ⟨account, hchecked, -, rfl⟩ := h
      exact ⟨s, hadmin, .tokenAdded habsent hheld' fun _ =>
        ⟨account, hchecked⟩⟩

/-- Every message of the administrator that is taken comes from the
administrator and does what its case says. -/
theorem Bridge.decided_of_handle {c : Context} {funds : List Coin}
    {r : Request} (only : r.isAdministrative = true)
    (h : b.handle c sender funds r = .ok (receipt, b')) :
    ∃ s, (b.settings = some s ∧ sender = s.admin) ∧ Decided b s r b' := by
  -- the requests that anybody but the administrator may make
  cases r with
  | depositNative | depositToken | depositMintable => cases only
  | submit | approve | cancel | uncancel => cases only
  | executeUnlock | executeMint => cases only
  -- each of the others checks its sender first; what it writes is read off its
  -- rule
  | setReviewWindow seconds =>
      simp only [handle, setReviewWindow, checkWindow, bind_eq_ok_iff,
        require_eq_ok_iff, pure_eq_ok_iff, requireAdmin_eq_ok_iff,
        exists_const, Prod.mk.injEq] at h
      obtain ⟨s, hadmin, hvalid, -, rfl⟩ := h
      exact ⟨s, hadmin, .window hvalid⟩
  | addRole role text =>
      simp only [handle, addRole, bind_eq_ok_iff, pure_eq_ok_iff,
        requireAdmin_eq_ok_iff, Prod.mk.injEq] at h
      obtain ⟨s, hadmin, account, hchecked, b₁, hgrant, -, rfl⟩ := h
      obtain ⟨habsent, set, hset, rfl⟩ := grantRole_eq_ok hgrant
      exact ⟨s, hadmin, .granted hchecked habsent hset⟩
  | removeRole role text =>
      simp only [handle, removeRole, bind_eq_ok_iff, pure_eq_ok_iff,
        requireAdmin_eq_ok_iff, Prod.mk.injEq] at h
      obtain ⟨s, hadmin, account, hchecked, b₁, hrevoke, -, rfl⟩ := h
      obtain ⟨hpresent, rfl⟩ := revokeRole_eq_ok hrevoke
      exact ⟨s, hadmin, .revoked hchecked hpresent⟩
  | registerChain identifier chain =>
      simp only [handle, registerChain, bind_eq_ok_iff, require_eq_ok_iff,
        pure_eq_ok_iff, requireAdmin_eq_ok_iff, mapError_eq_ok_iff,
        exists_const, Bool.not_eq_true', Bool.or_eq_false_iff,
        Prod.mk.injEq] at h
      obtain ⟨s, hadmin, hnamed, id, hid, ⟨hunnamed, habsent⟩, -, rfl⟩ := h
      exact ⟨s, hadmin, .chainAdded hnamed hid hunnamed habsent⟩
  | unregisterChain chain =>
      simp only [handle, unregisterChain, bind_eq_ok_iff,
        requireAdmin_eq_ok_iff, mapError_eq_ok_iff] at h
      obtain ⟨s, hadmin, id, hid, h⟩ := h
      -- a chain that is not registered was refused above
      cases hfound : b.chains.get? id with
      | none => rw [hfound] at h; cases h
      | some entry =>
          rw [hfound] at h
          cases h
          exact ⟨s, hadmin, .chainRemoved hid hfound⟩
  | addToken token isNative kind decimals => exact decided_of_addToken h
  | setTokenEnabled token enabled =>
      simp only [handle, setTokenEnabled, bind_eq_ok_iff,
        requireAdmin_eq_ok_iff] at h
      obtain ⟨s, hadmin, h⟩ := h
      cases hfound : b.tokens.get? token with
      | none => rw [hfound] at h; cases h
      | some entry =>
          rw [hfound] at h
          cases h
          exact ⟨s, hadmin, .tokenSwitched hfound⟩
  | setCounterpart token destChain destToken destDecimals =>
      simp only [handle, setCounterpart, bind_eq_ok_iff, require_eq_ok_iff,
        requireAdmin_eq_ok_iff, exists_const] at h
      obtain ⟨s, hadmin, hknown, chain, hchain, h⟩ := h
      cases hword : Bytes.ofList? 32 destToken with
      | none => rw [hword] at h; cases h
      | some word =>
          rw [hword] at h
          cases h
          exact ⟨s, hadmin, .counterpartSet hknown hchain hword⟩
  | setFees change =>
      simp only [handle, setFees, bind_eq_ok_iff, pure_eq_ok_iff,
        requireAdmin_eq_ok_iff, Prod.mk.injEq] at h
      obtain ⟨s, hadmin, discount, -, recipient, -, _, haccepted, -,
        rfl⟩ := h
      exact ⟨s, hadmin, .feesSet haccepted⟩
  | setCustomRate text rate =>
      simp only [handle, setAccountRate, bind_eq_ok_iff, pure_eq_ok_iff,
        requireAdmin_eq_ok_iff, Prod.mk.injEq] at h
      obtain ⟨s, hadmin, account, hchecked, b₁, hrate, -, rfl⟩ := h
      obtain ⟨haccepted, rfl⟩ := setCustomRate_eq_ok hrate
      exact ⟨s, hadmin, .rateSet hchecked haccepted⟩
  | removeCustomRate text =>
      simp only [handle, removeAccountRate, bind_eq_ok_iff, pure_eq_ok_iff,
        requireAdmin_eq_ok_iff, Prod.mk.injEq] at h
      obtain ⟨s, hadmin, account, hchecked, -, rfl⟩ := h
      exact ⟨s, hadmin, .rateRemoved hchecked⟩
  | pause =>
      simp only [handle, setPaused, bind_eq_ok_iff, pure_eq_ok_iff,
        requireAdmin_eq_ok_iff, Prod.mk.injEq] at h
      obtain ⟨s, hadmin, -, rfl⟩ := h
      exact ⟨s, hadmin, .paused⟩
  | unpause =>
      simp only [handle, setPaused, bind_eq_ok_iff, pure_eq_ok_iff,
        requireAdmin_eq_ok_iff, Prod.mk.injEq] at h
      obtain ⟨s, hadmin, -, rfl⟩ := h
      exact ⟨s, hadmin, .resumed⟩

/-- So a request of the administrator that was taken has done it. -/
theorem Taken.decided (t : Taken) (only : t.request.isAdministrative = true) :
    ∃ s, (t.before.bridge.settings = some s ∧ t.sender = s.admin)
      ∧ Decided t.before.bridge s t.request t.after := by
  have h := t.success
  simp only [Bridge.take, bind_eq_ok_iff] at h
  obtain ⟨_, -, hhandle⟩ := h
  exact Bridge.decided_of_handle only hhandle

end TokenBridge
