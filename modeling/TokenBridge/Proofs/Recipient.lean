/-
Who is paid under a hash.

The hash of a transfer commits to the account of the recipient, and that is
twenty bytes and a chain family. The payout goes to the text that was
submitted. Between the two stands the spelling: a readable part of anybody's
choice, and one of two checksums. Everything else of the text follows from
the bytes. So submissions that lead to one hash name one account, and their
recipients are the same text if they agree in these two choices; whoever
submits first has no other choice than these.
-/
import Mathlib.Data.List.Nodup
import TokenBridge.Proofs.Matching
import TokenBridge.Proofs.Records
import TokenBridge.Proofs.Spelling
import TokenBridge.Proofs.Stretch

namespace TokenBridge

open Outcome

-- ============================================================= what is named

/-- The transfer to a chain that a submission names. -/
def Submission.transfer (s : Submission) (chain : ChainId) :
    Outcome Transfer := do
  let srcChain ← (ChainId.ofBytes s.srcChain).mapError .invalidChainId
  let srcAccount ← srcAccountOf s.srcAccount
  let recipient ← checkAddress s.recipient
  let destAccount ← localAccount recipient
  return {
    srcChain, destChain := chain, srcAccount, destAccount
    token := tokenWord s.token, amount := s.amount, nonce := s.nonce }

/-- What is hashed for a submission. -/
def Submission.buffers (s : Submission) (chain : ChainId) :
    List (List UInt8) :=
  match s.transfer chain with
  | .ok t => [t.preimage]
  | .error _ => []

section

variable {b b' : Bridge} {c : Context} {funds : List Coin} {s : Submission}
  {receipt : Receipt} {hash : Word}

/-- The transfer that a submission names is what is hashed for it. -/
theorem Submission.mem_buffers {chain : ChainId} {t : Transfer}
    (h : s.transfer chain = .ok t) : t.preimage ∈ s.buffers chain := by
  unfold buffers
  rw [h]
  exact List.mem_cons_self

/-- A submission that is taken names the transfer of its record. -/
theorem Submitted.transfer_eq (told : Submitted b c funds s receipt b') :
    s.transfer told.settings.thisChain
      = .ok (told.record.transfer told.settings.thisChain) := by
  simp only [Submission.transfer, bind_eq_ok_iff, pure_eq_ok_iff]
  refine ⟨_,
    mapError_eq_ok_iff.mpr (Bridge.registeredChain_eq_ok told.srcChain_eq), _,
    told.srcAccount_eq, _, told.recipient_eq, _, told.account_eq, ?_⟩
  rw [told.record_eq]
  rfl

-- ============================================================= known already

/-- The record that an error refers to. -/
def BridgeError.record? : BridgeError → Option Word
  | .withdrawAlreadySubmitted hash => some hash
  | _ => none

/-- An outcome that does not refer to a record. -/
def Outcome.Unrelated {α : Type} : Outcome α → Prop
  | .ok _ => True
  | .error e => e.record? = none

namespace Outcome.Unrelated

variable {α β : Type}

/-- Such an outcome is not the refusal of a known record. -/
theorem ne {x : Outcome α} (h : x.Unrelated) :
    x ≠ .error (.withdrawAlreadySubmitted hash) := by
  rintro rfl
  cases h

/-- A chain refers to no record if none of its links does. -/
theorem bind {x : Outcome α} {f : α → Outcome β} (hx : x.Unrelated)
    (hf : ∀ a, (f a).Unrelated) : (x >>= f).Unrelated := by
  cases x with
  | ok a => exact hf a
  | error e => exact hx

theorem ite {p : Prop} [Decidable p] {x y : Outcome α} (hx : x.Unrelated)
    (hy : y.Unrelated) : (if p then x else y).Unrelated := by
  by_cases hp : p
  · rw [if_pos hp]
    exact hx
  · rw [if_neg hp]
    exact hy

theorem require {condition : Bool} {e : BridgeError} (h : e.record? = none) :
    (require condition e).Unrelated := by
  cases condition with
  | true => trivial
  | false => exact h

end Outcome.Unrelated

theorem Bridge.loadSettings_unrelated : b.loadSettings.Unrelated := by
  unfold loadSettings
  cases b.settings with
  | some s => trivial
  | none => rfl

/-- A chain id of the wrong length refers to no record. -/
theorem ChainId.ofBytes_unrelated {bytes : List UInt8} :
    Unrelated ((ofBytes bytes).mapError BridgeError.invalidChainId) := by
  cases ChainId.ofBytes bytes with
  | ok chain => trivial
  | error e => rfl

theorem Bridge.registeredChain_unrelated {bytes : List UInt8} :
    (b.registeredChain bytes).Unrelated := by
  unfold registeredChain
  refine Unrelated.bind ChainId.ofBytes_unrelated fun chain => ?_
  exact (Unrelated.require rfl).bind fun _ => trivial

/-- Whatever is wrong with a source account, no record is referred to. -/
theorem srcAccountOf_unrelated {bytes : List UInt8} :
    (srcAccountOf bytes).Unrelated := by
  unfold srcAccountOf
  cases Bytes.ofList? 32 bytes with
  | none => rfl
  | some w =>
      dsimp only
      cases Account.ofWordStrict w with
      | ok account => trivial
      | error e => rfl

/-- The same of a recipient. -/
theorem checkAddress_unrelated {text : String} :
    (checkAddress text).Unrelated := by
  unfold checkAddress
  refine .ite rfl (.ite rfl ?_)
  cases addressCut? text with
  | some index => rfl
  | none => exact .ite rfl trivial

theorem localAccount_unrelated {account : Address} :
    (localAccount account).Unrelated := by
  unfold localAccount
  cases Account.ofCosmosAddress account with
  | ok a => trivial
  | error e => rfl

/-- A token that is missing or disabled is refused by its own name. -/
theorem Bridge.loadToken_unrelated {id : String} :
    (b.loadToken id).Unrelated := by
  unfold loadToken
  cases b.tokens.get? id with
  | some entry => exact .ite trivial rfl
  | none => rfl

theorem Bridge.loadCounterpart_unrelated {id : String} {chain : ChainId} :
    (b.loadCounterpart id chain).Unrelated := by
  unfold loadCounterpart
  cases b.counterparts.get? (id, chain) with
  | some counterpart => trivial
  | none => rfl

/-- Coins are refused for their denomination or their sum. -/
theorem nativeFunds_unrelated {denom : String} {start : Amount} :
    (nativeFunds denom start funds).Unrelated := by
  induction funds generalizing start with
  | nil => trivial
  | cons coin rest ih =>
      unfold nativeFunds
      refine .ite rfl ?_
      cases start.add? coin.amount with
      | some total => exact ih
      | none => rfl

/-- A submission that is refused for a record names the transfer under whose
hash that is. -/
theorem Bridge.transfer_of_alreadySubmitted
    (h : b.submit c funds s = .error (.withdrawAlreadySubmitted hash)) :
    ∃ settings t, b.settings = some settings
      ∧ s.transfer settings.thisChain = .ok t ∧ t.hash = hash := by
  -- every guard before the known hash can only fail with another error, so the
  -- refusal has passed them all
  obtain ⟨settings, hs, h⟩ :=
    past_of_bind_eq_error h loadSettings_unrelated.ne
  obtain ⟨_, -, h⟩ := past_of_bind_eq_error h (Unrelated.require rfl).ne
  obtain ⟨_, -, h⟩ := past_of_bind_eq_error h (Unrelated.require rfl).ne
  obtain ⟨srcChain, hchain, h⟩ :=
    past_of_bind_eq_error h registeredChain_unrelated.ne
  obtain ⟨srcAccount, haccount, h⟩ :=
    past_of_bind_eq_error h srcAccountOf_unrelated.ne
  obtain ⟨recipient, hrecipient, h⟩ :=
    past_of_bind_eq_error h checkAddress_unrelated.ne
  obtain ⟨destAccount, hdest, h⟩ :=
    past_of_bind_eq_error h localAccount_unrelated.ne
  obtain ⟨token, -, h⟩ :=
    past_of_bind_eq_error h loadToken_unrelated.ne
  obtain ⟨counterpart, -, h⟩ :=
    past_of_bind_eq_error h loadCounterpart_unrelated.ne
  obtain ⟨_, -, h⟩ := past_of_bind_eq_error h (Unrelated.require rfl).ne
  -- what the guards read is all that a transfer is made of
  let t : Transfer := {
    srcChain, destChain := settings.thisChain, srcAccount, destAccount
    token := tokenWord s.token, amount := s.amount, nonce := s.nonce }
  have hnamed : s.transfer settings.thisChain = .ok t := by
    simp only [Submission.transfer, bind_eq_ok_iff, pure_eq_ok_iff]
    exact ⟨srcChain, mapError_eq_ok_iff.mpr (registeredChain_eq_ok hchain),
      srcAccount, haccount, recipient, hrecipient, destAccount, hdest, rfl⟩
  refine ⟨settings, t, loadSettings_eq_ok_iff.mp hs, hnamed, ?_⟩
  by_contra hne
  have hother : BridgeError.withdrawAlreadySubmitted t.hash
      ≠ .withdrawAlreadySubmitted hash :=
    fun he => hne (BridgeError.withdrawAlreadySubmitted.inj he)
  obtain ⟨_, -, h⟩ := past_of_bind_eq_error h (require_ne_error hother)
  obtain ⟨tip, -, h⟩ :=
    past_of_bind_eq_error h nativeFunds_unrelated.ne
  cases h

end

-- ========================================================== what it leads to

/-- A submission leads to a hash: its record is put there, or it is refused
for the record that is there. -/
inductive Session.LeadsTo (σ : Session) (s : Submission) (hash : Word) : Prop
  /-- The submission is taken, and its record is the one under the hash. -/
  | recorded {sender : Address} {funds : List Coin} {receipt : Receipt}
      {w : Withdrawal}
      (fresh : σ.bridge.withdrawals.get? hash = none)
      (response : (σ.step (.take sender funds (.submit s))).2
        = .ok (.receipt receipt))
      (stored : (σ.step
        (.take sender funds (.submit s))).1.bridge.withdrawals.get? hash
          = some w)
  /-- It is refused, for a record under the hash. -/
  | known {sender : Address} {funds : List Coin}
      (response : (σ.step (.take sender funds (.submit s))).2
        = .error (.withdrawAlreadySubmitted hash))

/-- In either case the hash is that of the transfer it names. -/
theorem Session.LeadsTo.transfer {σ : Session} {s : Submission} {hash : Word}
    {chain : ChainId} (h : σ.LeadsTo s hash) (runs : σ.bridge.RunsOn chain) :
    ∃ t, s.transfer chain = .ok t ∧ t.hash = hash := by
  obtain ⟨settings, hs, hchain⟩ := runs
  cases h with
  | recorded fresh response stored =>
      -- the response shows that the submission was taken, and the record is
      -- its own
      obtain ⟨t, ht⟩ := takenBy_of_response response
      rw [step_of_takenBy ht] at stored
      have hbefore := before_of_takenBy ht
      have handled := t.handled
      rw [request_of_takenBy ht, hbefore] at handled
      cases handled with
      | submit told =>
          cases told.settings_eq.symm.trans hs
          refine ⟨_, hchain ▸ told.transfer_eq, ?_⟩
          rcases get?_of_written
              (congrArg Bridge.withdrawals told.after :) hash with
            ⟨here, -⟩ | same
          · rw [← here, told.hash_eq, hchain]
          · -- a record elsewhere would leave the hash free
            rw [fresh] at same
            cases same.symm.trans stored
      | deposit brought told => cases brought
      | execute asks told => cases asks
      | administer only told => cases only
  | known response =>
      -- the refusal comes from the rule, past the guard of custody
      obtain ⟨_, -, hsubmit⟩ := past_of_bind_eq_error
        (take_of_refusal response) (Outcome.Unrelated.require rfl).ne
      obtain ⟨settings', t, hs', hnamed, hhash⟩ :=
        Bridge.transfer_of_alreadySubmitted hsubmit
      cases hs'.symm.trans hs
      exact ⟨t, hchain ▸ hnamed, hhash⟩

-- ============================================================== the spelling

/-- What the chain accepts as an address stays as it is, and is in lower
case. -/
theorem checkAddress_eq_ok {text : String} {account : Address}
    (h : checkAddress text = .ok account) :
    account = text ∧ Text.isLowerCase text = true := by
  unfold checkAddress at h
  by_cases hshort : utf8Length text.toList < minAddressLength
  · rw [if_pos hshort] at h
    cases h
  by_cases hlong : maxAddressLength < utf8Length text.toList
  · rw [if_neg hshort, if_pos hlong] at h
    cases h
  rw [if_neg hshort, if_neg hlong] at h
  -- the text is within its bounds, so only its letters are left to check
  cases hcut : addressCut? text with
  | some index =>
      rw [hcut] at h
      cases h
  | none =>
      rw [hcut] at h
      cases hlower : Text.isLowerCase text with
      | false =>
          rw [hlower] at h
          cases h
      | true =>
          rw [hlower] at h
          change (if text.toList.contains '\x00' = true then _ else _) = _ at h
          split at h
          · cases h
          · cases h
            exact ⟨rfl, rfl⟩

/-- Lower case leaves a letter alone that does not change in it. -/
theorem toLower_of_not_changes {c : Char}
    (h : Text.changesInLowerCase c = false) : c.toLower = c := by
  have hletters : (65, 90) ∈ Text.solidRuns := List.mem_cons_self
  apply toLower_of_not_isUpper
  apply Bool.eq_false_iff.mpr
  intro hupper
  have hchanges : Text.changesInLowerCase c = true := by
    unfold Text.changesInLowerCase
    rw [Bool.or_eq_true]
    exact .inl (List.any_eq_true.mpr
      ⟨(65, 90), hletters, decide_eq_true (isUpper_iff.mp hupper)⟩)
  rw [h] at hchanges
  cases hchanges

/-- A text that lower case leaves alone is its own lower case. -/
theorem map_toLower_of_isLowerCase {text : String}
    (h : Text.isLowerCase text = true) :
    text.toList.map Char.toLower = text.toList := by
  unfold Text.isLowerCase at h
  rw [Bool.not_eq_true', List.any_eq_false] at h
  have hchars : ∀ c ∈ text.toList, c.toLower = id c := fun c hc =>
    toLower_of_not_changes (Bool.not_eq_true _ ▸ h c hc)
  rw [List.map_congr_left hchars, List.map_id]

/-- A text of an account: its bytes under a readable part, in one of the two
variants of the format. -/
def Account.Spells (raw : Bytes 20) (text : String) : Prop :=
  ∃ readable, ∃ target ∈ Bech32.goodRemainders,
    text = Account.spell target readable raw

/-- A word shows the bytes of an account of this chain, and a text spells
them. -/
structure Account.Names (word : Word) (raw : Bytes 20) (text : String) :
    Prop where
  word_eq : word = Account.toWord ⟨cosmos, raw, Bytes.zero 8⟩
  spells : Account.Spells raw text

/-- The word of an address of this chain shows what the address spells. -/
theorem Account.names_of_localAccount {text : String} {word : Word}
    (lower : Text.isLowerCase text = true)
    (h : localAccount text = .ok word) :
    ∃ raw, Account.Names word raw text := by
  unfold localAccount ofCosmosAddress at h
  cases hread : readBech32Address text with
  | error e =>
      rw [hread] at h
      cases h
  | ok raw =>
      rw [hread] at h
      cases h
      exact ⟨raw, rfl, spell_of_readBech32Address hread
        (map_toLower_of_isLowerCase lower)⟩

/-- A word shows all twenty bytes, so equal words are of equal bytes. -/
theorem Account.raw_eq_of_toWord {chainType : UInt32} {raw raw' : Bytes 20}
    {reserved : Bytes 8}
    (h : Account.toWord ⟨chainType, raw, reserved⟩
      = Account.toWord ⟨chainType, raw', reserved⟩) : raw = raw' := by
  have hlists := congrArg Bytes.toList h
  change (_ ++ raw.toList) ++ _ = (_ ++ raw'.toList) ++ _ at hlists
  exact Bytes.ext
    (List.append_cancel_left (List.append_cancel_right hlists))

/-- All texts of one word spell the same bytes. -/
theorem Account.Names.spells_of_same {word : Word} {raw raw' : Bytes 20}
    {text text' : String} (h : Account.Names word raw text)
    (h' : Account.Names word raw' text') : Account.Spells raw text' := by
  rw [raw_eq_of_toWord (h.word_eq.symm.trans h'.word_eq)]
  exact h'.spells

-- ================================================================= on record

/-- Every recipient on record was accepted in lower case. -/
theorem lowerRecipients_invariant :
    Invariant fun _ b =>
      b.withdrawals.Every fun w => Text.isLowerCase w.recipient = true := by
  refine .ofBridge ?opened ?kept (fun h => h)
  case opened =>
    intro o
    obtain ⟨settings, -, hb, -⟩ := Bridge.setUp_eq_ok o.success
    rw [hb]
    exact Table.every_empty _
  case kept =>
    intro b c sender funds receipt b' r idle handled h hash w hw
    -- only a submission writes a recipient, after the check of its text
    cases handled.record hash with
    | kept same => exact h hash w (same ▸ hw)
    | submitted told here after =>
        cases after.symm.trans hw
        obtain ⟨hsame, hlower⟩ := checkAddress_eq_ok told.recipient_eq
        rw [hsame]
        exact hlower
    | approved told here after =>
        cases after.symm.trans hw
        show Text.isLowerCase told.charged.recipient = true
        rw [Bridge.charged_eq_ok told.charged_eq]
        exact h told.hash told.found told.found_eq
    | vetoed told here after =>
        cases after.symm.trans hw
        exact h told.hash told.found told.found_eq
    | restored told here after =>
        cases after.symm.trans hw
        exact h told.hash told.found told.found_eq
    | paid asks told here after =>
        cases after.symm.trans hw
        exact h told.hash told.found told.found_eq

/-- The recipient of a record spells the account in its hash. -/
theorem Run.recipient_named (r : Run) {hash : Word} {w : Withdrawal}
    (hw : r.last.bridge.withdrawals.get? hash = some w) :
    ∃ raw, Account.Names w.destAccount raw w.recipient :=
  Account.names_of_localAccount
    ((lowerRecipients_invariant.throughout r).now hash w hw)
    ((checked_invariant.throughout r).now.2 hash w hw).account

/-- And so does the recipient of a submission. -/
theorem Submission.recipient_named {s : Submission} {chain : ChainId}
    {t : Transfer} (h : s.transfer chain = .ok t) :
    ∃ raw, Account.Names t.destAccount raw s.recipient := by
  simp only [transfer, bind_eq_ok_iff, pure_eq_ok_iff] at h
  obtain ⟨srcChain, -, srcAccount, -, recipient, hrecipient, destAccount,
    hdest, rfl⟩ := h
  obtain ⟨rfl, hlower⟩ := checkAddress_eq_ok hrecipient
  exact Account.names_of_localAccount hlower hdest

-- ================================================= a sample of two spellings

/-- Where no two buffers have one hash, none collide. -/
theorem NoneCollide.of_nodup {ps : List (List UInt8)}
    (h : (ps.map keccak256).Nodup) : NoneCollide ps ps :=
  fun _ hp _ hq heq => List.inj_on_of_nodup_map h hp hq heq

/-- What would be taken but for the records is refused for the one under its
hash. -/
theorem Submitted.refused_again {b b' : Bridge} {c : Context}
    {funds : List Coin} {s : Submission} {receipt : Receipt}
    (told : Submitted b c funds s receipt b')
    {withdrawals : Table Word Withdrawal}
    (known : withdrawals.contains told.hash = true) :
    ({ b with withdrawals } : Bridge).submit c funds s
      = .error (.withdrawAlreadySubmitted told.hash) := by
  have hload : ({ b with withdrawals } : Bridge).loadSettings
      = .ok told.settings :=
    Bridge.loadSettings_eq_ok_iff.mpr told.settings_eq
  have hchain : ({ b with withdrawals } : Bridge).registeredChain s.srcChain
      = .ok told.record.srcChain := told.srcChain_eq
  have htoken : ({ b with withdrawals } : Bridge).loadToken s.token
      = .ok told.token := told.token_eq
  have hcounterpart : ({ b with withdrawals } : Bridge).loadCounterpart s.token
      told.record.srcChain = .ok told.counterpart := told.counterpart_eq
  have hamount : s.amount.isZero = false :=
    Amount.isZero_eq_false_iff.mpr told.amount_ne
  have hpass : ∀ e : BridgeError, require true e = .ok () := fun e => rfl
  -- every guard goes through as it did, up to the one for a known hash
  simp only [Bridge.submit, hload, hchain, htoken, hcounterpart, ok_bind,
    told.running, hamount, Bool.not_false, hpass, told.srcAccount_eq,
    told.recipient_eq, told.account_eq, told.decimals_eq, decide_true]
  have hhash : Transfer.hash {
      srcChain := told.record.srcChain
      destChain := told.settings.thisChain
      srcAccount := told.record.srcAccount
      destAccount := told.record.destAccount
      token := tokenWord s.token, amount := s.amount, nonce := s.nonce }
        = told.hash := by
    rw [told.hash_eq, told.record_eq]
    rfl
  unfold Withdrawal.transfer
  rw [hhash, known]
  rfl

namespace Sample

/-- The account of the user under another readable part. -/
def namesake : Address := "cosmos1zyg3zyg3zyg3zyg3zyg3zyg3zyg3zyg3pahzj0"

/-- The transfer, to a recipient of the submitter's choice. -/
def submissionTo (recipient : String) : Submission :=
  ⟨thereChain.toList, account.toList, "terra1mint", recipient, amount, 1, 6⟩

/-- The step that submits it. -/
def submissionStep (recipient : String) : Session.Step :=
  .take "anyone" [] (.submit (submissionTo recipient))

section

variable {recipient : String}
  (taken : (ready.last.takenBy (submissionStep recipient)).isSome = true)
  (values : (ready.last.step
    (submissionStep recipient)).1.bridge.withdrawals.values
      = [{ record with recipient }])

include taken values

/-- A submission that is taken makes a record that differs in the recipient
only, under the same hash. -/
theorem submitted_to :
    ∃ receipt b', ∃ told : Submitted ready.last.bridge ready.last.context []
        (submissionTo recipient) receipt b',
      told.settings.thisChain = hereChain
        ∧ told.record = { record with recipient }
        ∧ told.hash = hash
        ∧ (ready.last.step (submissionStep recipient)).2
          = .ok (.receipt receipt)
        ∧ (ready.last.step (submissionStep recipient)).1.bridge = b' := by
  obtain ⟨hempty, hchain, -, -⟩ := ready_state
  obtain ⟨t, ht⟩ := Option.isSome_iff_exists.mp taken
  obtain ⟨-, hfunds, hrequest⟩ :=
    Session.Step.take.inj (Session.eq_of_takenBy ht)
  have handled := t.handled
  rw [Session.before_of_takenBy ht, ← hfunds, ← hrequest] at handled
  rw [Session.step_of_takenBy ht] at values ⊢
  -- of all messages that are taken, this one is a submission
  cases handled with
  | submit told =>
      rw [told.settings_eq] at hchain
      have hthis : told.settings.thisChain = hereChain :=
        Option.some.inj hchain
      have hafter : t.after.withdrawals
          = ready.last.bridge.withdrawals.insert told.hash told.record :=
        congrArg Bridge.withdrawals told.after
      change t.after.withdrawals.values = _ at values
      rw [hafter, hempty] at values
      have hrecord : told.record = { record with recipient } :=
        List.singleton_inj.mp values
      have hhash : told.hash = hash := by
        rw [told.hash_eq, hthis, hrecord]
        exact hash_record
      exact ⟨_, _, told, hthis, hrecord, hhash, rfl, rfl⟩
  | deposit brought told => cases brought
  | execute asks told => cases asks
  | administer only told => cases only

/-- So it names the transfer of the record. -/
theorem transfer_to :
    (submissionTo recipient).transfer hereChain
      = .ok (record.transfer hereChain) := by
  obtain ⟨receipt, b', told, hchain, hrecord, -, -, -⟩ :=
    submitted_to taken values
  have hnamed := told.transfer_eq
  rw [hchain, hrecord] at hnamed
  exact hnamed

theorem buffers_to :
    (submissionTo recipient).buffers hereChain
      = [(record.transfer hereChain).preimage] := by
  unfold Submission.buffers
  rw [transfer_to taken values]

/-- The recipient of whoever is first is on record. -/
theorem stored_to :
    (ready.last.step
      (submissionStep recipient)).1.bridge.withdrawals.get? hash
        = some { record with recipient } := by
  obtain ⟨receipt, b', told, -, hrecord, hhash, -, hbridge⟩ :=
    submitted_to taken values
  have hafter : b'.withdrawals
      = ready.last.bridge.withdrawals.insert told.hash told.record :=
    congrArg Bridge.withdrawals told.after
  rw [hbridge, hafter, hhash, hrecord]
  exact Table.get?_insert_self _ _ _

/-- A submission that is taken leads to the hash of its record. -/
theorem leads_to : ready.last.LeadsTo (submissionTo recipient) hash := by
  obtain ⟨receipt, b', told, -, -, -, hresponse, -⟩ :=
    submitted_to taken values
  have hstored := stored_to taken values
  have hfresh : ready.last.bridge.withdrawals.get? hash = none := by
    rw [ready_state.1]
    exact Table.get?_empty hash
  exact .recorded hfresh hresponse hstored

/-- And whoever is second is refused for the record of the first. -/
theorem leads_to_again :
    submitted.last.LeadsTo (submissionTo recipient) hash := by
  obtain ⟨receipt, b', told, -, -, hhash, -, -⟩ := submitted_to taken values
  have hknown : (Table.empty.insert hash record).contains told.hash
      = true := by
    rw [hhash]
    unfold Table.contains
    rw [Table.get?_insert_self]
    rfl
  -- the record under the hash is the first submitter's
  have hrefused := told.refused_again hknown
  rw [hhash] at hrefused
  have hidle : recorded.bridge.inFlight = none := by
    obtain ⟨t, ht⟩ := Option.isSome_iff_exists.mp taken
    have hidle := t.idle
    rw [Session.before_of_takenBy ht] at hidle
    exact hidle
  have hresponse : (recorded.step (submissionStep recipient)).2
      = .error (.withdrawAlreadySubmitted hash) := by
    unfold submissionStep
    rw [Session.step_take_of_idle hidle]
    exact congrArg (Except.map fun result : Receipt × Bridge =>
      Session.Response.receipt result.1) hrefused
  rw [last_submitted]
  exact .known hresponse

end

/-- The user is such a recipient. -/
theorem user_state :
    (ready.last.takenBy (submissionStep user)).isSome = true
      ∧ (ready.last.step (submissionStep user)).1.bridge.withdrawals.values
        = [{ record with recipient := user }] := by
  have hstep : submission = submissionStep user := rfl
  have hrecord : record = { record with recipient := user } := rfl
  obtain ⟨-, -, htaken, hvalues⟩ := ready_state
  rw [hstep] at htaken hvalues
  rw [hrecord] at hvalues
  exact ⟨htaken, hvalues⟩

theorem namesake_state :
    (ready.last.takenBy (submissionStep namesake)).isSome = true
      ∧ (ready.last.step (submissionStep namesake)).1.bridge.withdrawals.values
        = [{ record with recipient := namesake }] := by
  decide +kernel

/-- The bridge before any submission runs on the chain here. -/
theorem runsOn_ready : ready.last.bridge.RunsOn hereChain :=
  .of_thisChain ready_state.2.1

/-- One buffer is all that the two submissions and the record hash. -/
theorem noneCollide_namesake :
    NoneCollide ((submissionTo user).buffers hereChain)
      ((submissionTo namesake).buffers hereChain
        ++ withdrawalBuffers submitted.last.bridge.withdrawals hereChain) := by
  rw [buffers_to user_state.1 user_state.2,
    buffers_to namesake_state.1 namesake_state.2, withdrawalBuffers_submitted]
  intro p hp q hq _
  rw [List.mem_singleton.mp hp]
  rcases List.mem_append.mp hq with hq | hq
  · exact (List.mem_singleton.mp hq).symm
  · exact (List.mem_singleton.mp hq).symm

/-- All that is hashed until the namesake is refused: the name of the chain
there, that of the token, and the transfer. -/
def hashed : List (List UInt8) :=
  [utf8 "there", utf8 "terra1mint", (record.transfer hereChain).preimage]

/-- The name of the chain there, hashed. -/
def chainName : Word :=
  ⟨[97, 229, 229, 199, 237, 88, 102, 190, 238, 7, 78, 221, 94, 52, 29, 201,
    195, 0, 195, 109, 26, 175, 74, 186, 215, 70, 170, 169, 241, 246, 218, 60],
    rfl⟩

/-- The name of the chain, hashed by computation. -/
theorem keccak256_there : keccak256 (utf8 "there") = chainName := by
  decide +kernel

/-- No two of the buffers collide, for their hashes are three different
words. -/
theorem noneCollide_hashed : NoneCollide hashed hashed := by
  have hhashes : hashed.map keccak256 = [chainName, token, hash] := by
    show [keccak256 (utf8 "there"), tokenWord "terra1mint",
      (record.transfer hereChain).hash] = _
    rw [keccak256_there, tokenWord_mint, hash_record]
  apply NoneCollide.of_nodup
  rw [hhashes]
  decide

end Sample

-- =========================================================== every recipient

/-- Submissions that lead to one hash on one chain, in whatever states, name
one account, and so does what is on record under the hash. Their recipients
spell the same bytes; they can differ in the readable part and in the variant
of the format only. -/
theorem Run.recipient_up_to_spelling {r r' : Run} {chain : ChainId}
    {s s' : Submission} {hash : Word}
    (runs : r.last.bridge.RunsOn chain) (runs' : r'.last.bridge.RunsOn chain)
    (leads : r.last.LeadsTo s hash) (leads' : r'.last.LeadsTo s' hash)
    (free : NoneCollide (s.buffers chain)
      (s'.buffers chain
        ++ withdrawalBuffers r'.last.bridge.withdrawals chain)) :
    ∃ raw, Account.Spells raw s.recipient ∧ Account.Spells raw s'.recipient
      ∧ ∀ w, r'.last.bridge.withdrawals.get? hash = some w →
        Account.Spells raw w.recipient := by
  obtain ⟨t, ht, hhash⟩ := leads.transfer runs
  obtain ⟨t', ht', hhash'⟩ := leads'.transfer runs'
  obtain ⟨raw, hnames⟩ := Submission.recipient_named ht
  -- whatever has this hash and is hashed here is this transfer
  have hsame : ∀ u : Transfer, u.hash = hash → u.preimage ∈ s'.buffers chain
      ++ withdrawalBuffers r'.last.bridge.withdrawals chain → t = u := by
    intro u hu hmem
    apply Transfer.preimage_injective
    exact free _ (Submission.mem_buffers ht) _ hmem (hhash.trans hu.symm)
  refine ⟨raw, hnames.spells, ?second, fun w hw => ?stored⟩
  case second =>
    have heq := hsame t' hhash'
      (List.mem_append_left _ (Submission.mem_buffers ht'))
    obtain ⟨raw', hnames'⟩ := Submission.recipient_named ht'
    rw [← heq] at hnames'
    exact hnames.spells_of_same hnames'
  case stored =>
    have heq := hsame (w.transfer chain) (r'.hash_eq_of_runsOn hw runs')
      (List.mem_append_right _ (Withdrawal.mem_buffers chain hw))
    have hdest : t.destAccount = w.destAccount :=
      congrArg Transfer.destAccount heq
    obtain ⟨raw', hnames'⟩ := r'.recipient_named hw
    rw [← hdest] at hnames'
    exact hnames.spells_of_same hnames'

/-- Two texts that one hash stands for, and the one account behind them. -/
theorem Run.two_spellings_of_one_account :
    Sample.user ≠ Sample.namesake
      ∧ ∃ raw, Account.Spells raw Sample.user
        ∧ Account.Spells raw Sample.namesake
        ∧ Account.Spells raw Sample.record.recipient := by
  obtain ⟨raw, huser, hnamesake, hstored⟩ := Run.recipient_up_to_spelling
    Sample.runsOn_ready Sample.runsOn_submitted
    (Sample.leads_to Sample.user_state.1 Sample.user_state.2)
    (Sample.leads_to_again Sample.namesake_state.1 Sample.namesake_state.2)
    Sample.noneCollide_namesake
  exact ⟨by decide, raw, huser, hnamesake,
    hstored Sample.record Sample.get?_submitted⟩

/-- The text itself is not in the hash. Nothing that is hashed collides, and
still either of two texts is put on record under one hash, if it comes first;
the other one then is refused for that record. -/
theorem Run.recipients_differ_under_one_hash :
    Sample.ready.Onward Sample.submitted
      ∧ NoneCollide Sample.hashed Sample.hashed
      ∧ Sample.ready.last.LeadsTo (Sample.submissionTo Sample.user) Sample.hash
      ∧ Sample.ready.last.LeadsTo (Sample.submissionTo Sample.namesake)
        Sample.hash
      ∧ Sample.submitted.last.LeadsTo (Sample.submissionTo Sample.namesake)
        Sample.hash
      ∧ ((Sample.ready.last.step (Sample.submissionStep Sample.user)).1
          |>.bridge.withdrawals.get? Sample.hash).map (·.recipient)
        = some Sample.user
      ∧ ((Sample.ready.last.step (Sample.submissionStep Sample.namesake)).1
          |>.bridge.withdrawals.get? Sample.hash).map (·.recipient)
        = some Sample.namesake
      ∧ Sample.user ≠ Sample.namesake := by
  refine ⟨.step (.refl _) _ _, Sample.noneCollide_hashed,
    Sample.leads_to Sample.user_state.1 Sample.user_state.2,
    Sample.leads_to Sample.namesake_state.1 Sample.namesake_state.2,
    Sample.leads_to_again Sample.namesake_state.1 Sample.namesake_state.2,
    ?_, ?_, by decide⟩
  · rw [Sample.stored_to Sample.user_state.1 Sample.user_state.2]
    rfl
  · rw [Sample.stored_to Sample.namesake_state.1 Sample.namesake_state.2]
    rfl

end TokenBridge
