/-
The registry and the parameters are well formed at every moment.

Fourteen messages of the administrator and the set-up write the
configuration, and each checks what it writes. The settings keep a name of
the chain and a recipient of the fees; a counterpart is of a token that is
registered, and tokens stay; and the two tables of chains are one relation
between names, which may be read from either side (`ChainsIndexed`). A
registration writes a pair of names that were both free, and a removal
strikes a pair, so whatever order they come in, no name is left behind in
one table only.

The rates, the window and the kinds of the tokens have their invariants
elsewhere. All of them are put together at the end.
-/
import TokenBridge.Proofs.Authority
import TokenBridge.Proofs.Rates
import TokenBridge.Proofs.Registry

namespace TokenBridge

open Outcome

-- ================================================================== the names

/-- Bytes compare as their lists do: the first difference decides. -/
theorem compare_bytes_eq_lt_iff (as bs : List UInt8) :
    compare as bs = .lt ↔ as < bs := by
  induction as generalizing bs with
  | nil =>
      cases bs with
      | nil => simp
      | cons b bs =>
          exact ⟨fun _ => List.nil_lt_cons b bs,
            fun _ => List.compareLex_nil_cons⟩
  | cons a as ih =>
      cases bs with
      | nil => simp
      | cons b bs =>
          change List.compareLex compare (a :: as) (b :: bs) = .lt ↔ _
          rw [List.cons_lt_cons_iff, ← ih, List.compareLex_cons_cons,
            Ordering.then_eq_lt, Std.LawfulLTCmp.eq_lt_iff_lt,
            Std.LawfulEqCmp.compare_eq_iff_eq]
          rfl

/-- Bytes that name a chain are not all zero. -/
theorem ChainId.ofBytes_eq_ok {bytes : List UInt8} {id : ChainId}
    (h : ofBytes bytes = .ok id) : id ≠ Bytes.zero 4 := by
  unfold ofBytes at h
  cases hread : Bytes.ofList? 4 bytes with
  | none => rw [hread] at h; cases h
  | some read =>
      rw [hread] at h
      by_cases hzero : read = Bytes.zero 4
      · simp only [if_pos hzero, reduceCtorEq] at h
      · simp only [if_neg hzero, Except.ok.injEq] at h
        rw [← h]
        exact hzero

-- ================================================================= the chains

/-- A chain as it is registered under two names. -/
def Chain.named (id : ChainId) (text : String) : Chain :=
  ⟨id, text, keccak256 (utf8 text)⟩

/-- Every chain stands under its name with its own data, and the readable
names lead back to exactly the chains that have them. -/
structure ChainsIndexed (chains : Table ChainId Chain)
    (byIdentifier : Table String ChainId) : Prop where
  /-- Each chain is stored under its id and with the hash of its name. -/
  recorded : ∀ {id chain}, chains.get? id = some chain →
    id ≠ Bytes.zero 4 ∧ chain.identifier ≠ ""
      ∧ chain = .named id chain.identifier
  /-- Names and ids are each other's. -/
  index : ∀ id text, byIdentifier.get? text = some id ↔
    chains.get? id = some (.named id text)

namespace ChainsIndexed

variable {chains : Table ChainId Chain} {byIdentifier : Table String ChainId}
  {id : ChainId} {text : String}

/-- No chain and no name: there is nothing to lead anywhere. -/
theorem empty : ChainsIndexed Table.empty Table.empty := by
  refine ⟨fun h => ?_, fun id text => ?_⟩
  · rw [Table.get?_empty] at h
    cases h
  · rw [Table.get?_empty, Table.get?_empty]
    exact ⟨nofun, nofun⟩

/-- A chain is registered under names that are both free. -/
theorem add (h : ChainsIndexed chains byIdentifier)
    (absent : chains.get? id = none)
    (unnamed : byIdentifier.get? text = none)
    (valid : id ≠ Bytes.zero 4) (nonempty : text ≠ "") :
    ChainsIndexed (chains.insert id (.named id text))
      (byIdentifier.insert text id) := by
  refine ⟨fun {id' chain} hfound => ?_, fun id' text' => ?_⟩
  · rw [Table.get?_insert] at hfound
    by_cases hid : id = id'
    · rw [if_pos hid] at hfound
      cases hfound
      subst hid
      exact ⟨valid, nonempty, rfl⟩
    · rw [if_neg hid] at hfound
      -- every other chain is recorded as before
      exact h.recorded hfound
  · rw [Table.get?_insert, Table.get?_insert]
    by_cases htext : text = text'
    · subst htext
      rw [if_pos rfl]
      by_cases hid : id = id'
      · subst hid
        rw [if_pos rfl]
        exact ⟨fun _ => rfl, fun _ => rfl⟩
      · -- the readable name was free, so no chain had it
        rw [if_neg hid, ← h.index, unnamed]
        exact ⟨fun heq => absurd (Option.some.inj heq) hid, nofun⟩
    · rw [if_neg htext]
      by_cases hid : id = id'
      · -- the four bytes were free, so no readable name led to them
        subst hid
        rw [if_pos rfl, h.index, absent]
        refine ⟨nofun, fun heq => absurd ?_ htext⟩
        exact congrArg Chain.identifier (Option.some.inj heq)
      · rw [if_neg hid]
        exact h.index id' text'

/-- A chain that is removed leaves neither name behind. -/
theorem remove (h : ChainsIndexed chains byIdentifier) {entry : Chain}
    (found : chains.get? id = some entry) :
    ChainsIndexed (chains.erase id) (byIdentifier.erase entry.identifier) := by
  obtain ⟨-, -, hentry⟩ := h.recorded found
  have hindexed : byIdentifier.get? entry.identifier = some id := by
    rw [h.index, ← hentry]
    exact found
  refine ⟨fun {id' chain} hfound => ?_, fun id' text' => ?_⟩
  · rw [Table.get?_erase] at hfound
    by_cases hid : id = id'
    · rw [if_pos hid] at hfound
      cases hfound
    · rw [if_neg hid] at hfound
      exact h.recorded hfound
  · rw [Table.get?_erase, Table.get?_erase]
    by_cases htext : entry.identifier = text'
    -- the name that was taken away leads nowhere; no second chain had it
    · subst htext
      rw [if_pos rfl]
      by_cases hid : id = id'
      · rw [if_pos hid]
        exact ⟨nofun, nofun⟩
      · rw [if_neg hid, ← h.index, hindexed]
        exact ⟨nofun, fun heq => absurd (Option.some.inj heq) hid⟩
    · rw [if_neg htext]
      by_cases hid : id = id'
      -- the chain is gone, and another name never led to it
      · subst hid
        rw [if_pos rfl, h.index, found]
        refine ⟨fun heq => absurd ?_ htext, nofun⟩
        exact congrArg Chain.identifier (Option.some.inj heq)
      · rw [if_neg hid]
        exact h.index id' text'

/-- The list of the chains has each of them once, in the order of their
names. -/
theorem values (h : ChainsIndexed chains byIdentifier) :
    (∀ chain, chain ∈ chains.values ↔ chains.get? chain.id = some chain)
      ∧ chains.values.Pairwise fun c d => c.id.toList < d.id.toList := by
  have hid : ∀ {id chain}, chains.get? id = some chain → chain.id = id := by
    intro id chain hfound
    obtain ⟨-, -, hchain⟩ := h.recorded hfound
    rw [hchain]
    rfl
  refine ⟨fun chain => ?members, ?order⟩
  case members =>
    rw [Table.mem_values_iff]
    constructor
    · rintro ⟨id, hfound⟩
      rw [hid hfound]
      exact hfound
    · exact fun hfound => ⟨chain.id, hfound⟩
  case order =>
    refine (Table.pairwise_values hid).imp fun hlt => ?_
    rw [Bytes.compare_def] at hlt
    exact (compare_bytes_eq_lt_iff _ _).mp hlt

end ChainsIndexed

-- ========================================================== the configuration

/-- The chain of the bridge has a name, and somebody gets the fees. -/
structure Settings.Sound (s : Settings) : Prop where
  thisChain : s.thisChain ≠ Bytes.zero 4
  recipient : s.fees.recipient ≠ ""

/-- What the messages of the administrator keep of the configuration. -/
structure Configuration.Sound (c : Configuration) : Prop where
  settings : ∀ s, c.settings = some s → s.Sound
  chains : ChainsIndexed c.chains c.chainByIdentifier
  /-- What a token is elsewhere is said only of known tokens and chains. -/
  counterparts : ∀ {id chain counterpart},
    c.counterparts.get? (id, chain) = some counterpart →
      c.tokens.contains id = true ∧ chain ≠ Bytes.zero 4

namespace Configuration.Sound

variable {b b' : Bridge}

/-- The set-up checks the name of the chain and the recipient of the fees, and
starts with tables that have nothing in them. -/
theorem opened (o : Opening) : o.bridge.configuration.Sound := by
  obtain ⟨settings, hsettings, hchain, hfees⟩ :=
    Bridge.settings_of_setUp o.success
  obtain ⟨_, -, hb, -⟩ := Bridge.setUp_eq_ok o.success
  refine ⟨fun s hs => ?settings, ?chains, fun {id chain counterpart} hfound =>
    ?counterparts⟩
  case settings =>
    cases hsettings.symm.trans hs
    exact ⟨ChainId.ofBytes_eq_ok hchain, (checkFees_eq_ok hfees).2.2⟩
  case chains =>
    rw [hb]
    exact .empty
  case counterparts =>
    rw [hb] at hfound
    cases hfound

/-- Settings may be written if they are sound; no table is touched. -/
theorem settle (h : b.configuration.Sound) {s : Settings} (hs : s.Sound) :
    ({ b with settings := some s } : Bridge).configuration.Sound := by
  refine ⟨fun s' hs' => ?_, h.chains, h.counterparts⟩
  cases hs'
  exact hs

/-- Writing a token leaves every registered token registered. -/
theorem write (h : b.configuration.Sound) (id : String) (token : Token) :
    ({ b with tokens := b.tokens.insert id token } :
      Bridge).configuration.Sound := by
  refine ⟨h.settings, h.chains, fun {id' chain counterpart} hfound => ?_⟩
  obtain ⟨hknown, hvalid⟩ := h.counterparts hfound
  refine ⟨?_, hvalid⟩
  show (b.tokens.insert id token).contains id' = true
  rw [Table.contains_insert, Bool.or_eq_true]
  exact .inr hknown

/-- Every message of the administrator keeps the configuration sound. Only
three of them write a table of chains or of counterparts. -/
theorem decided (h : b.configuration.Sound) {s : Settings} {r : Request}
    (hs : b.settings = some s) (hd : Decided b s r b') :
    b'.configuration.Sound := by
  have hsound := h.settings s hs
  cases hd with
  | window => exact h.settle ⟨hsound.thisChain, hsound.recipient⟩
  | paused => exact h.settle ⟨hsound.thisChain, hsound.recipient⟩
  | resumed => exact h.settle ⟨hsound.thisChain, hsound.recipient⟩
  | feesSet accepted =>
      obtain ⟨-, -, hrecipient⟩ := checkFees_eq_ok accepted
      exact h.settle ⟨hsound.thisChain, hrecipient⟩
  | chainAdded named read unnamed absent =>
      have hchains := h.chains.add (Table.contains_eq_false_iff.mp absent)
        (Table.contains_eq_false_iff.mp unnamed)
        (ChainId.ofBytes_eq_ok read) (String.isEmpty_eq_false_iff.mp named)
      exact ⟨h.settings, hchains, h.counterparts⟩
  | chainRemoved read found =>
      exact ⟨h.settings, h.chains.remove found, h.counterparts⟩
  | tokenAdded => exact h.write _ _
  | tokenSwitched => exact h.write _ _
  -- a counterpart is written for a token that is registered, on a chain that
  -- is
  | @counterpartSet id destChain destToken decimals chain token known
      registered read =>
      refine ⟨h.settings, h.chains, fun {id' chain' counterpart} hfound => ?_⟩
      change (b.counterparts.insert (id, chain) _).get? (id', chain')
        = some counterpart at hfound
      rw [Table.get?_insert] at hfound
      by_cases hkey : (id, chain) = (id', chain')
      · cases hkey
        exact ⟨known, ChainId.ofBytes_eq_ok
          (Bridge.registeredChain_eq_ok registered)⟩
      · rw [if_neg hkey] at hfound
        exact h.counterparts hfound
  | @granted role text account set checked absent room =>
      cases role with
      | operator => exact ⟨h.settings, h.chains, h.counterparts⟩
      | canceler => exact ⟨h.settings, h.chains, h.counterparts⟩
  | @revoked role text account checked present =>
      cases role with
      | operator => exact ⟨h.settings, h.chains, h.counterparts⟩
      | canceler => exact ⟨h.settings, h.chains, h.counterparts⟩
  | rateSet | rateRemoved => exact ⟨h.settings, h.chains, h.counterparts⟩

end Configuration.Sound

/-- The configuration is sound at every moment of every run. -/
theorem sound_invariant : Invariant fun _ b => b.configuration.Sound :=
  .ofConfiguration .opened fun hs hd h => h.decided hs hd

-- ================================================================== every run

/-- A registered token is registered ever after, and all of it but its
switch stays. -/
theorem Run.Onward.token_stays {r r' : Run} (h : r.Onward r') {id : String}
    {token : Token} (hfound : r.last.bridge.tokens.get? id = some token) :
    ∃ enabled,
      r'.last.bridge.tokens.get? id = some { token with enabled } := by
  refine h.induction (q := fun r₀ => ∃ enabled,
    r₀.last.bridge.tokens.get? id = some { token with enabled })
    ⟨token.enabled, hfound⟩ ?_
  rintro r₀ x hx - - ⟨enabled, hbefore⟩
  obtain ⟨enabled', hafter⟩ :=
    (r₀.moved x hx).token_stays r₀.coherent r₀.held hbefore
  exact ⟨enabled', hafter⟩

/-- At every moment of a run the settings are there and within their bounds,
and so is every rate; the rate that is kept for an account is set. The tables
of chains are inverse to each other, and their list has each chain once, in
the order of the names. A token stands under its own name, a coin is always
held, a counterpart is of a registered token on a chain with a name, and a
registered token keeps its nature and its decimals for good. -/
theorem Run.wellFormed (r : Run) :
    (∃ s, r.last.bridge.settings = some s
        ∧ s.fees.standard.toNat ≤ 100 ∧ s.fees.discounted.toNat ≤ 100
        ∧ s.fees.recipient ≠ ""
        ∧ 15 ≤ s.reviewWindow.toNat ∧ s.reviewWindow.toNat ≤ 86400
        ∧ s.thisChain ≠ Bytes.zero 4)
      ∧ (∀ account own,
          r.last.bridge.customRates.get? account = some own →
            own.rate.toNat ≤ 100 ∧ own.isSet = true)
      ∧ (∀ id text,
          r.last.bridge.chainByIdentifier.get? text = some id ↔
            r.last.bridge.chains.get? id
                = some ⟨id, text, keccak256 (utf8 text)⟩
              ∧ text ≠ "")
      ∧ (∀ id chain, r.last.bridge.chains.get? id = some chain →
          id ≠ Bytes.zero 4
            ∧ r.last.bridge.chainByIdentifier.get? chain.identifier = some id)
      ∧ (∃ all, r.last.ask .chains = .ok (.chains all)
        ∧ (∀ chain, chain ∈ all ↔
            r.last.bridge.chains.get? chain.id = some chain)
        ∧ all.Pairwise fun c d => c.id.toList < d.id.toList)
      ∧ (∀ id token, r.last.bridge.tokens.get? id = some token →
          token.id = id
            ∧ (token.isNative = true → token.kind = .lockUnlock)
            ∧ ∀ r', r.Onward r' → ∃ later,
                r'.last.bridge.tokens.get? id = some later
                  ∧ later.isNative = token.isNative
                  ∧ later.kind = token.kind
                  ∧ later.decimals = token.decimals)
      ∧ (∀ id chain counterpart,
          r.last.bridge.counterparts.get? (id, chain) = some counterpart →
            (∃ token, r.last.bridge.tokens.get? id = some token)
              ∧ chain ≠ Bytes.zero 4) := by
  have hsound := (sound_invariant.throughout r).now
  have hcapped := (ratesCapped_invariant.throughout r).now
  have htokens := (tokensKept_invariant.throughout r).now
  have hchains : ChainsIndexed r.last.bridge.chains
      r.last.bridge.chainByIdentifier := hsound.chains
  -- what the invariants say of the last state, put together
  refine ⟨?settings, fun account own hown => ?rates, fun id text => ?index,
    fun id chain hchain => ?chains, ⟨_, rfl, hchains.values⟩,
    fun id token hfound => ?tokens,
    fun id chain counterpart hfound => ?counterparts⟩
  case settings =>
    obtain ⟨s, hs, -⟩ := r.settings_eq
    have hvalid := (windowValid_invariant.throughout r).now s hs
    obtain ⟨hthis, hrecipient⟩ := hsound.settings s hs
    exact ⟨s, hs, UInt64.le_iff_toNat_le.mp (hcapped.standard s hs),
      UInt64.le_iff_toNat_le.mp (hcapped.discounted s hs), hrecipient,
      ReviewWindow.minLength_le hvalid, ReviewWindow.le_maxLength hvalid,
      hthis⟩
  case rates =>
    have haccepted := hcapped.custom account own hown
    exact ⟨UInt64.le_iff_toNat_le.mp haccepted.capped, haccepted.set⟩
  case index =>
    rw [hchains.index]
    constructor
    · intro hchain
      exact ⟨hchain, (hchains.recorded hchain).2.1⟩
    · exact fun h => h.1
  case chains =>
    obtain ⟨hvalid, -, hnamed⟩ := hchains.recorded hchain
    refine ⟨hvalid, ?_⟩
    rw [hchains.index, ← hnamed]
    exact hchain
  case tokens =>
    refine ⟨htokens.named hfound, htokens.held hfound, fun r' h => ?_⟩
    obtain ⟨enabled, hlater⟩ := h.token_stays hfound
    exact ⟨_, hlater, rfl, rfl, rfl⟩
  case counterparts =>
    obtain ⟨hknown, hvalid⟩ := hsound.counterparts hfound
    exact ⟨Option.isSome_iff_exists.mp hknown, hvalid⟩

end TokenBridge
