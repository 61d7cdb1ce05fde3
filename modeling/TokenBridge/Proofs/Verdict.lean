/-
A reviewer condemns on conclusive evidence only.

A verdict rests on two things: the sighting itself, and what is heard of its
hash from the chain it claims to come from. Nothing is heard where no source
is registered for the chain and where the source does not answer, and then
the verdict is pending (`verdict_eq`). Everything else is read off this one
equation. Above all, a reviewer that hears less, be it that a source fell
silent or that none was ever registered, condemns nothing that it did not
condemn before.

What is heard depends on the past: sources are registered, replaced, and may
change their answers at any time. So the statement is about a reviewer after
any sequence of such acts and of calls (`Reviewer.after`), and the source
that a chain has then is told from the acts alone (`sourceAfter`). The calls
leave one thing behind, the count of sightings that met no source.
-/
import Mathlib.Algebra.Group.Nat.Defs
import Mathlib.Data.List.Induction
import TokenBridge.Proofs.Table
import TokenBridge.Reviewer.Review

namespace TokenBridge.Reviewer

-- ============================================================== the comparison

/-- A sighting that is in order by itself: it is for this chain, and its hash
is that of its fields. -/
structure Sighting.InOrder (s : Sighting) (thisChain : ChainId) : Prop where
  destChain : s.transfer.destChain = thisChain
  hash : s.hash = s.transfer.hash

/-- A deposit that agrees with a sighting in every field, under the identity
in use. -/
structure Evidence.Agrees (e : Evidence) (s : Sighting) : Prop where
  version : e.version = .unified
  hash : e.hash = s.hash
  destChain : e.destChain = s.transfer.destChain
  srcAccount : e.srcAccount = s.transfer.srcAccount
  destAccount : e.destAccount = s.transfer.destAccount
  token : e.token = s.transfer.token
  amount : e.amount = s.transfer.amount
  nonce : e.nonce = s.transfer.nonce

/-- One check in a row of checks finds nothing. -/
theorem ite_some_eq_none_iff {α : Type} {p : Prop} [Decidable p] {a : α}
    {rest : Option α} :
    (if p then some a else rest) = none ↔ ¬ p ∧ rest = none := by
  by_cases h : p
  · simp [h]
  · simp [h]

/-- A sighting without fault is one in order. -/
theorem Sighting.fault_eq_none_iff {s : Sighting} {thisChain : ChainId} :
    s.fault? thisChain = none ↔ s.InOrder thisChain := by
  simp only [fault?, ite_some_eq_none_iff, ne_eq, Decidable.not_not]
  constructor
  · intro ⟨hchain, hhash, _⟩
    exact ⟨hchain, hhash.symm⟩
  · intro h
    exact ⟨h.destChain, h.hash.symm, trivial⟩

/-- So it can be decided. -/
instance (s : Sighting) (thisChain : ChainId) :
    Decidable (s.InOrder thisChain) :=
  decidable_of_iff _ Sighting.fault_eq_none_iff

/-- Evidence without a mismatch agrees in every field. -/
theorem Evidence.mismatch_eq_none_iff {e : Evidence} {s : Sighting} :
    e.mismatch? s = none ↔ e.Agrees s := by
  simp only [mismatch?, ite_some_eq_none_iff, ne_eq, Decidable.not_not]
  constructor
  · intro ⟨hversion, hhash, hchain, hsrc, hdest, htoken, hamount, hnonce, _⟩
    exact ⟨hversion, hhash, hchain, hsrc, hdest, htoken, hamount, hnonce⟩
  · intro h
    exact ⟨h.version, h.hash, h.destChain, h.srcAccount, h.destAccount,
      h.token, h.amount, h.nonce, trivial⟩

-- ================================================================= the judgment

/-- A deposit that is found is judged by its mismatches alone. -/
theorem judge_found_eq_valid_iff {s : Sighting} {e : Evidence} :
    s.judge (.found e) = .valid ↔ e.mismatch? s = none := by
  simp only [Sighting.judge]
  cases e.mismatch? s with
  | none => exact ⟨fun _ => rfl, fun _ => rfl⟩
  | some reason => exact ⟨nofun, nofun⟩

/-- An answer is judged valid exactly when it is a deposit that agrees. -/
theorem Sighting.judge_eq_valid_iff {s : Sighting} {answer : Lookup} :
    s.judge answer = .valid ↔ ∃ e, answer = .found e ∧ e.Agrees s := by
  cases answer with
  | unavailable => exact ⟨nofun, nofun⟩
  | absent => exact ⟨nofun, nofun⟩
  | found e =>
      rw [judge_found_eq_valid_iff, Evidence.mismatch_eq_none_iff]
      constructor
      · intro h
        exact ⟨e, rfl, h⟩
      · intro ⟨e', he, h⟩
        cases he
        exact h

/-- Any answer at all settles the matter. -/
theorem Sighting.judge_eq_pending_iff {s : Sighting} {answer : Lookup} :
    s.judge answer = .pending ↔ answer = .unavailable := by
  cases answer with
  | unavailable => exact ⟨fun _ => rfl, fun _ => rfl⟩
  | absent => exact ⟨nofun, nofun⟩
  | found e =>
      simp only [judge]
      cases e.mismatch? s with
      | none => exact ⟨nofun, nofun⟩
      | some reason => exact ⟨nofun, nofun⟩

-- ================================================================== what is heard

/-- What a source says of a hash; nothing where there is no source. -/
def heardFrom (source : Option Source) (hash : Word) : Lookup :=
  match source with
  | none => .unavailable
  | some source => source hash

/-- A deposit is heard of only from a source that has it. -/
theorem heardFrom_eq_found_iff {source : Option Source} {hash : Word}
    {e : Evidence} :
    heardFrom source hash = .found e ↔
      ∃ answers, source = some answers ∧ answers hash = .found e := by
  cases source with
  | none => simp [heardFrom]
  | some answers => simp [heardFrom]

/-- Nothing is heard where no source is, or where it does not answer. -/
theorem heardFrom_eq_unavailable_iff {source : Option Source} {hash : Word} :
    heardFrom source hash = .unavailable ↔ source = none
      ∨ ∃ answers, source = some answers ∧ answers hash = .unavailable := by
  cases source with
  | none => simp [heardFrom]
  | some answers => simp [heardFrom]

variable (v : Reviewer) (s : Sighting)

/-- The verdict, from the sighting and what is heard of it. -/
theorem verdict_eq : (v.verify s).1 =
    match s.fault? v.config.thisChain with
    | some reason => .invalid reason
    | none => s.judge (heardFrom (v.sources.get? s.transfer.srcChain) s.hash)
    := by
  unfold verify
  cases s.fault? v.config.thisChain with
  | some reason => rfl
  | none =>
      cases v.sources.get? s.transfer.srcChain with
      | none => rfl
      | some source => rfl

/-- A verdict leaves the configuration. -/
theorem config_verify : (v.verify s).2.config = v.config := by
  unfold verify
  split
  · rfl
  · split
    · rfl
    · rfl

theorem sources_verify : (v.verify s).2.sources = v.sources := by
  unfold verify
  split
  · rfl
  · split
    · rfl
    · rfl

/-- What a call leaves behind: one more sighting counted, if it was in order
and met no source. -/
theorem unknownSources_verify : (v.verify s).2.unknownSources.toNat
    = (v.unknownSources.toNat + (decide (s.InOrder v.config.thisChain)
      && (v.sources.get? s.transfer.srcChain).isNone).toNat) % word64Limit := by
  have hkept : v.unknownSources.toNat
      = (v.unknownSources.toNat + 0) % word64Limit :=
    (Nat.mod_eq_of_lt v.unknownSources.toNat_lt).symm
  unfold verify
  cases hfault : s.fault? v.config.thisChain with
  | some reason =>
      have hout : ¬ s.InOrder v.config.thisChain := by
        rw [← Sighting.fault_eq_none_iff, hfault]
        exact Option.some_ne_none reason
      rw [decide_eq_false hout]
      exact hkept
  | none =>
      rw [decide_eq_true (Sighting.fault_eq_none_iff.mp hfault)]
      cases v.sources.get? s.transfer.srcChain with
      | none => exact UInt64.toNat_add _ _
      | some source => exact hkept

-- ===================================================================== the acts

/-- What happens to a reviewer. -/
inductive Act
  | register (chain : ChainId) (source : Source)
  /-- From now on the source of a chain, if it has one, answers so. -/
  | turn (chain : ChainId) (source : Source)
  | verify (s : Sighting)
  | review (s : Sighting) (now : UInt64)

/-- The source of a chain, if there is one, answers otherwise from now on. -/
def turn (v : Reviewer) (chain : ChainId) (source : Source) : Reviewer :=
  if (v.sources.get? chain).isSome then v.register chain source else v

/-- The reviewer after an act. -/
def act (v : Reviewer) : Act → Reviewer
  | .register chain source => v.register chain source
  | .turn chain source => v.turn chain source
  | .verify s => (v.verify s).2
  | .review s now => (v.review s now).2

/-- A new reviewer after acts. -/
def after (config : Config) (acts : List Act) : Reviewer :=
  acts.foldl act (new config)

/-- The source of a chain after an act. -/
def Act.source (chain : ChainId) (known : Option Source) :
    Act → Option Source
  | .register chain' source => if chain' = chain then some source else known
  | .turn chain' source =>
    if chain' = chain then known.map fun _ => source else known
  | .verify _ => known
  | .review _ _ => known

/-- The source of a chain after acts: the one registered last, as it answers
by then. -/
def sourceAfter (acts : List Act) (chain : ChainId) : Option Source :=
  acts.foldl (Act.source chain) none

/-- The sighting that an act judges; a review judges approved ones only. -/
def Act.judges : Act → Option Sighting
  | .register _ _ => none
  | .turn _ _ => none
  | .verify s => some s
  | .review s _ => if s.isApproved then some s else none

/-- An act that comes after others judges a sighting that is in order and
meets no source. -/
def Act.misses (thisChain : ChainId) (past : List Act) (a : Act) : Bool :=
  a.judges.any fun s =>
    decide (s.InOrder thisChain)
      && (sourceAfter past s.transfer.srcChain).isNone

/-- No act changes the configuration. -/
theorem config_act (v : Reviewer) (a : Act) : (v.act a).config = v.config := by
  cases a with
  | register chain source => rfl
  | turn chain source =>
      simp only [act, turn]
      split
      · rfl
      · rfl
  | verify s => exact v.config_verify s
  | review s now =>
      simp only [act, review]
      split
      · exact v.config_verify s
      · rfl

/-- An act does to the sources what is told from the act alone. -/
theorem sources_act (v : Reviewer) (a : Act) (chain : ChainId) :
    (v.act a).sources.get? chain = a.source chain (v.sources.get? chain) := by
  cases a with
  | register chain' source => exact Table.get?_insert _ _ _ _
  | turn chain' source =>
      simp only [act, turn, Act.source]
      cases hknown : v.sources.get? chain' with
      | none =>
          rw [if_neg (by simp)]
          by_cases hchain : chain' = chain
          · subst hchain
            rw [if_pos rfl, hknown]
            rfl
          · rw [if_neg hchain]
      | some known =>
          rw [if_pos (by simp)]
          apply (Table.get?_insert _ _ _ _).trans
          by_cases hchain : chain' = chain
          · subst hchain
            rw [if_pos rfl, if_pos rfl, hknown]
            rfl
          · rw [if_neg hchain, if_neg hchain]
  | verify s =>
      show (v.verify s).2.sources.get? chain = _
      rw [v.sources_verify s]
      rfl
  | review s now =>
      simp only [act, review]
      split
      · show (v.verify s).2.sources.get? chain = _
        rw [v.sources_verify s]
        rfl
      · rfl

/-- And the count goes up by the sightings that meet no source. -/
theorem unknownSources_act (v : Reviewer) (past : List Act) (a : Act)
    (hsources : ∀ chain, v.sources.get? chain = sourceAfter past chain) :
    (v.act a).unknownSources.toNat
      = (v.unknownSources.toNat
        + (a.misses v.config.thisChain past).toNat) % word64Limit := by
  have hkept : v.unknownSources.toNat
      = (v.unknownSources.toNat + 0) % word64Limit :=
    (Nat.mod_eq_of_lt v.unknownSources.toNat_lt).symm
  have hverify := v.unknownSources_verify
  cases a with
  | register chain source => exact hkept
  | turn chain source =>
      simp only [act, turn]
      split
      · exact hkept
      · exact hkept
  | verify s =>
      specialize hverify s
      rw [hsources] at hverify
      exact hverify
  | review s now =>
      specialize hverify s
      rw [hsources] at hverify
      simp only [act, review, Act.misses, Act.judges]
      by_cases happroved : s.isApproved = true
      · rw [if_pos happroved, if_pos happroved]
        exact hverify
      · rw [if_neg happroved, if_neg happroved]
        exact hkept

/-- How many of the acts after a past do so. -/
def missed (thisChain : ChainId) : (past acts : List Act) → Nat
  | _, [] => 0
  | past, a :: rest =>
    (a.misses thisChain past).toNat + missed thisChain (past ++ [a]) rest

/-- An act is a call. -/
def Act.isCall : Act → Bool
  | .register _ _ => false
  | .turn _ _ => false
  | .verify _ => true
  | .review _ _ => true

/-- One more act misses what it misses after all that came before. -/
theorem missed_snoc (thisChain : ChainId) (past acts : List Act) (a : Act) :
    missed thisChain past (acts ++ [a])
      = missed thisChain past acts
        + (a.misses thisChain (past ++ acts)).toNat := by
  induction acts generalizing past with
  | nil =>
      rw [List.append_nil]
      show _ + 0 = 0 + _
      omega
  | cons first rest ih =>
      rw [List.cons_append, missed, missed, ih, List.append_assoc]
      show _ = _ + (a.misses thisChain (past ++ ([first] ++ rest))).toNat
      omega

/-- Only calls miss anything. -/
theorem missed_le (thisChain : ChainId) (past acts : List Act) :
    missed thisChain past acts ≤ acts.countP Act.isCall := by
  induction acts generalizing past with
  | nil => exact Nat.le_refl 0
  | cons a rest ih =>
      have hrest := ih (past ++ [a])
      have hfirst := (a.misses thisChain past).toNat_le
      rw [missed, List.countP_cons]
      cases a with
      | register | turn =>
          show 0 + _ ≤ _ + 0
          omega
      | verify | review =>
          show _ ≤ _ + 1
          omega

-- ============================================================== after the acts

section

variable (config : Config) (acts : List Act)

theorem after_snoc (a : Act) :
    after config (acts ++ [a]) = (after config acts).act a := by
  unfold after
  rw [List.foldl_append]
  rfl

/-- The source of a chain after one more act is what the act makes of it. -/
theorem sourceAfter_snoc (a : Act) (chain : ChainId) :
    sourceAfter (acts ++ [a]) chain
      = a.source chain (sourceAfter acts chain) := by
  unfold sourceAfter
  rw [List.foldl_append]
  rfl

theorem config_after : (after config acts).config = config := by
  induction acts using List.reverseRecOn with
  | nil => rfl
  | append_singleton acts a ih => rw [after_snoc, config_act, ih]

/-- The reviewer asks the sources that the acts have left. -/
theorem sources_after (chain : ChainId) :
    (after config acts).sources.get? chain = sourceAfter acts chain := by
  induction acts using List.reverseRecOn with
  | nil => exact Table.get?_empty chain
  | append_singleton acts a ih =>
      rw [after_snoc, sources_act, sourceAfter_snoc, ih]

/-- The counter is the number of calls that met no source, in the range of a
word. -/
theorem unknownSources_after :
    (after config acts).unknownSources.toNat
      = missed config.thisChain [] acts % word64Limit := by
  induction acts using List.reverseRecOn with
  | nil => rfl
  | append_singleton acts a ih =>
      have hsources := sources_after config acts
      rw [after_snoc, unknownSources_act _ acts a hsources, ih, config_after,
        missed_snoc, Nat.mod_add_mod]
      rfl

/-- The verdict on a sighting after acts. -/
def verdictAfter (s : Sighting) : Verdict := ((after config acts).verify s).1

/-- What a canceler is told about a sighting after acts. -/
def decisionAfter (s : Sighting) (now : UInt64) : Decision :=
  ((after config acts).review s now).1

/-- The verdict after some acts is a matter of the configuration and the
sources that they left. -/
theorem verdictAfter_eq (s : Sighting) :
    verdictAfter config acts s =
      match s.fault? config.thisChain with
      | some reason => .invalid reason
      | none =>
        s.judge (heardFrom (sourceAfter acts s.transfer.srcChain) s.hash) := by
  unfold verdictAfter
  rw [verdict_eq, config_after, sources_after]

end

-- ============================================================== hearing less

/-- A verdict against a sighting. -/
def Verdict.isInvalid : Verdict → Bool
  | .valid => false
  | .invalid _ => true
  | .pending => false

/-- A decision against a sighting. -/
def Decision.isAgainst : Decision → Bool
  | .keep => false
  | .cancel _ => true
  | .windowClosed _ => true
  | .retry => false

/-- After other acts a reviewer hears of every hash what it hears after
these, or nothing. -/
def Quieter (acts acts' : List Act) : Prop :=
  ∀ chain hash,
    heardFrom (sourceAfter acts' chain) hash
        = heardFrom (sourceAfter acts chain) hash
      ∨ heardFrom (sourceAfter acts' chain) hash = .unavailable

/-- A source that is offline. -/
def silent : Source := fun _ => .unavailable

/-- An act registers a source of a chain. -/
def Act.registers (chain : ChainId) : Act → Bool
  | .register chain' _ => chain' = chain
  | .turn _ _ => false
  | .verify _ => false
  | .review _ _ => false

/-- So it is if the source of a chain falls silent. -/
theorem quieter_of_silent (acts : List Act) (chain : ChainId) :
    Quieter acts (acts ++ [.turn chain silent]) := by
  intro chain' hash
  rw [sourceAfter_snoc]
  simp only [Act.source]
  by_cases hchain : chain = chain'
  · right
    rw [if_pos hchain]
    cases sourceAfter acts chain' with
    | none => rfl
    | some source => rfl
  · left
    rw [if_neg hchain]

/-- Without its registrations a chain has no source, and the others have
those they had. -/
theorem sourceAfter_unregistered (acts : List Act) (chain chain' : ChainId) :
    sourceAfter (acts.filter fun a => !a.registers chain) chain'
      = if chain = chain' then none else sourceAfter acts chain' := by
  induction acts using List.reverseRecOn with
  | nil =>
      split
      · rfl
      · rfl
  -- a registration of the chain is dropped; any other act does the same to
  -- both
  | append_singleton acts a ih =>
      rw [List.filter_append, sourceAfter_snoc]
      cases a with
      | register named source =>
          simp only [Act.source]
          by_cases hnamed : named = chain
          · have hdropped : [Act.register named source].filter
                (fun a => !a.registers chain) = [] := by
              simp [Act.registers, hnamed]
            rw [hdropped, List.append_nil, ih, hnamed]
            split
            · rfl
            · rfl
          · have hkept : [Act.register named source].filter
                (fun a => !a.registers chain) = [.register named source] := by
              simp [Act.registers, hnamed]
            rw [hkept, sourceAfter_snoc, ih]
            simp only [Act.source]
            by_cases hchain : chain = chain'
            · rw [if_pos hchain, if_pos hchain, if_neg (hchain ▸ hnamed)]
            · rw [if_neg hchain, if_neg hchain]
      | turn named source =>
          show sourceAfter (_ ++ [.turn named source]) chain' = _
          rw [sourceAfter_snoc, ih]
          simp only [Act.source]
          by_cases hchain : chain = chain'
          · rw [if_pos hchain, if_pos hchain, Option.map_none, ite_self]
          · rw [if_neg hchain, if_neg hchain]
      | verify s => exact (sourceAfter_snoc _ _ _).trans ih
      | review s now => exact (sourceAfter_snoc _ _ _).trans ih

/-- A reviewer to which a chain was never registered hears less. -/
theorem quieter_of_unregistered (acts : List Act) (chain : ChainId) :
    Quieter acts (acts.filter fun a => !a.registers chain) := by
  intro chain' hash
  rw [sourceAfter_unregistered]
  by_cases hchain : chain = chain'
  · right
    rw [if_pos hchain]
    rfl
  · left
    rw [if_neg hchain]

section

variable {config : Config} {acts acts' : List Act} {s : Sighting}

/-- What is condemned on less is condemned on more. -/
theorem Quieter.isInvalid (quieter : Quieter acts acts')
    (kept : (verdictAfter config acts s).isInvalid = false) :
    (verdictAfter config acts' s).isInvalid = false := by
  rw [verdictAfter_eq] at kept ⊢
  cases hfault : s.fault? config.thisChain with
  | some reason =>
      rw [hfault] at kept
      cases kept
  | none =>
      rw [hfault] at kept
      rcases quieter s.transfer.srcChain s.hash with hsame | hnothing
      · rw [hsame]
        exact kept
      · rw [hnothing]
        rfl

/-- A decision is against a sighting exactly if it is approved and
condemned. -/
theorem isAgainst_decisionAfter (now : UInt64) :
    (decisionAfter config acts s now).isAgainst
      = (s.isApproved && (verdictAfter config acts s).isInvalid) := by
  unfold decisionAfter review verdictAfter
  cases s.isApproved with
  | false => rfl
  | true =>
      show (((after config acts).verify s).2.advise s now
        ((after config acts).verify s).1).isAgainst = _
      cases ((after config acts).verify s).1 with
      | valid => rfl
      | pending => rfl
      | invalid reason =>
          simp only [advise]
          split
          · rfl
          · rfl

end

-- ================================================================ every verdict

/-- After any acts, a verdict is valid exactly if the sighting is in order by
itself and the source that its chain has by then answers with a deposit that
agrees with it; it is pending exactly if the sighting is in order and there
is no such source or it does not answer; else it is invalid. So hearing less
never turns a verdict or a decision against a sighting, be it that a source
fell silent or that none was registered. And what is counted are the calls
that judged a sighting in order and met no source. -/
theorem condemned_on_evidence (config : Config) (acts : List Act) :
    (∀ s, verdictAfter config acts s = .valid ↔
        s.InOrder config.thisChain ∧ ∃ source e,
          sourceAfter acts s.transfer.srcChain = some source
            ∧ source s.hash = .found e ∧ e.Agrees s)
      ∧ (∀ s, verdictAfter config acts s = .pending ↔
        s.InOrder config.thisChain
          ∧ (sourceAfter acts s.transfer.srcChain = none
            ∨ ∃ source, sourceAfter acts s.transfer.srcChain = some source
              ∧ source s.hash = .unavailable))
      ∧ (∀ s, (∃ reason, verdictAfter config acts s = .invalid reason) ↔
        verdictAfter config acts s ≠ .valid
          ∧ verdictAfter config acts s ≠ .pending)
      ∧ (∀ acts', Quieter acts acts' → ∀ s,
        ((verdictAfter config acts s).isInvalid = false →
            (verdictAfter config acts' s).isInvalid = false)
          ∧ ∀ now, (decisionAfter config acts s now).isAgainst = false →
            (decisionAfter config acts' s now).isAgainst = false)
      ∧ (∀ chain, Quieter acts (acts ++ [.turn chain silent])
        ∧ Quieter acts (acts.filter fun a => !a.registers chain))
      ∧ (acts.countP Act.isCall < word64Limit →
        (after config acts).unknownSources.toNat
          = missed config.thisChain [] acts) := by
  refine ⟨fun s => ?valid, fun s => ?pending, fun s => ?invalid,
    fun acts' quieter s => ⟨quieter.isInvalid, fun now kept => ?decided⟩,
    fun chain => ⟨quieter_of_silent acts chain,
      quieter_of_unregistered acts chain⟩, fun few => ?counted⟩
  case valid =>
    rw [verdictAfter_eq, ← Sighting.fault_eq_none_iff]
    cases s.fault? config.thisChain with
    | some reason => exact ⟨nofun, fun h => absurd h.1 nofun⟩
    | none =>
        simp only [Sighting.judge_eq_valid_iff, heardFrom_eq_found_iff]
        constructor
        · intro ⟨e, ⟨source, hsource, hfound⟩, hagrees⟩
          exact ⟨trivial, source, e, hsource, hfound, hagrees⟩
        · intro ⟨_, source, e, hsource, hfound, hagrees⟩
          exact ⟨e, ⟨source, hsource, hfound⟩, hagrees⟩
  case pending =>
    rw [verdictAfter_eq, ← Sighting.fault_eq_none_iff]
    cases s.fault? config.thisChain with
    | some reason => exact ⟨nofun, fun h => absurd h.1 nofun⟩
    | none =>
        simp only [Sighting.judge_eq_pending_iff,
          heardFrom_eq_unavailable_iff, true_and]
  case invalid =>
    cases verdictAfter config acts s with
    | valid => exact ⟨nofun, fun h => absurd rfl h.1⟩
    | pending => exact ⟨nofun, fun h => absurd rfl h.2⟩
    | invalid reason => exact ⟨fun _ => ⟨nofun, nofun⟩, fun _ => ⟨_, rfl⟩⟩
  case decided =>
    rw [isAgainst_decisionAfter] at kept ⊢
    cases happroved : s.isApproved with
    | false => rfl
    | true =>
        rw [happroved] at kept
        exact quieter.isInvalid kept
  case counted =>
    have hfew := missed_le config.thisChain [] acts
    rw [unknownSources_after, Nat.mod_eq_of_lt (by omega)]

end TokenBridge.Reviewer
