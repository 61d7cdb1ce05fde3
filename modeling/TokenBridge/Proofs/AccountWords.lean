/-
Accounts and words are two forms of one thing.

Every account has a word and every word an account, and going there and
back changes nothing, whatever the family and whatever the reserved bytes
(`ofWord_toWord`, `toWord_ofWord`). What a chain accepts is the part of the
words that new accounts have: a family that is not zero and nothing in the
reserved bytes. So writing an account and reading a word strictly succeed
on the same pairs.

Three kinds of words enter the bridge as accounts: the destination of a
deposit, the source of a submission, and what an account of its own chain
is turned into (`Admitted`). All of them are words of new accounts, so a
family and twenty bytes have one such word and no second. Nothing else is
ever put on record.
-/
import TokenBridge.Proofs.Bytes
import TokenBridge.Proofs.Records

namespace TokenBridge

namespace Account

-- ============================================================ there and back

/-- The word of an account denotes this account. -/
theorem ofWord_toWord (a : Account) : ofWord a.toWord = a := by
  have hfamily : (a.toWord.extract 0 4 (by decide))
      = Bytes.ofNat 4 a.chainType.toNat := by
    refine (Bytes.extract_append_of_le _ a.reserved (by decide)).trans ?_
    refine (Bytes.extract_append_of_le _ a.raw (by decide)).trans ?_
    exact Bytes.extract_all _ _
  have hraw : a.toWord.extract 4 20 (by decide) = a.raw := by
    refine (Bytes.extract_append_of_le _ a.reserved (by decide)).trans ?_
    exact Bytes.extract_append_right _ _
  have hreserved : a.toWord.extract 24 8 (by decide) = a.reserved :=
    Bytes.extract_append_right _ _
  have hnumber : a.chainType.toNat < 256 ^ 4 := a.chainType.toNat_lt
  unfold ofWord
  rw [hfamily, hraw, hreserved, Bytes.toNat_ofNat hnumber,
    UInt32.ofNat_toNat]

/-- The account that a word denotes has this word. -/
theorem toWord_ofWord (w : Word) : (ofWord w).toWord = w := by
  have hlt : (w.extract 0 4 (by decide)).toNat < 2 ^ 32 := Bytes.toNat_lt _
  have hnumber : (ofWord w).chainType.toNat
      = (w.extract 0 4 (by decide)).toNat := by
    unfold ofWord
    rw [UInt32.toNat_ofNat', Nat.mod_eq_of_lt hlt]
  have hfront : (w.extract 0 4 (by decide)).append
      (w.extract 4 20 (by decide)) = w.extract 0 24 (by decide) :=
    Bytes.append_extract w (by decide)
  have hwhole : (w.extract 0 24 (by decide)).append
      (w.extract 24 8 (by decide)) = w.extract 0 32 (by decide) :=
    Bytes.append_extract w (by decide)
  unfold toWord
  rw [hnumber, Bytes.ofNat_toNat]
  show ((w.extract 0 4 (by decide)).append (w.extract 4 20 (by decide))).append
    (w.extract 24 8 (by decide)) = w
  rw [hfront, hwhole]
  exact Bytes.extract_all w _

/-- A word is an account's exactly when it reads as the account. -/
theorem eq_toWord_iff {w : Word} {a : Account} :
    w = a.toWord ↔ ofWord w = a := by
  constructor
  · rintro rfl
    exact ofWord_toWord a
  · rintro rfl
    exact (toWord_ofWord w).symm

-- ============================================================== new accounts

section

variable {chainType expected : UInt32} {raw : Bytes 20} {w v : Word}
  {a : Account}

/-- A new account is written unless its family is zero. -/
theorem encode_eq_ok_iff :
    encode chainType raw = .ok w
      ↔ chainType ≠ 0 ∧ w = toWord ⟨chainType, raw, Bytes.zero 8⟩ := by
  unfold encode new make
  by_cases hzero : chainType = 0
  · simp [hzero, Except.map]
  · simp [hzero, Except.map, eq_comm]

/-- A word is read strictly if it denotes an account that could be new. -/
theorem ofWordStrict_eq_ok_iff :
    ofWordStrict w = .ok a
      ↔ ofWord w = a ∧ a.chainType ≠ 0 ∧ a.reserved = Bytes.zero 8 := by
  unfold ofWordStrict
  constructor
  · intro h
    by_cases hzero : (ofWord w).chainType = 0
    · simp [hzero] at h
    · by_cases hreserved : (ofWord w).reserved = Bytes.zero 8
      · simp only [hzero, if_false, hreserved, ne_eq, not_true,
          Except.ok.injEq] at h
        subst h
        exact ⟨rfl, hzero, hreserved⟩
      · simp [hzero, hreserved] at h
  · rintro ⟨rfl, hfamily, hreserved⟩
    simp [hfamily, hreserved]

/-- A word read as of one kind is a new account's, of that kind. -/
theorem ofWordAs_eq_ok_iff :
    ofWordAs w expected = .ok a
      ↔ ofWordStrict w = .ok a ∧ a.chainType = expected := by
  unfold ofWordAs
  cases ofWordStrict w with
  | error e => simp
  | ok found =>
      by_cases hfamily : found.chainType = expected
      · simp only [hfamily, ne_eq, not_true, if_false, Except.ok.injEq]
        exact ⟨fun h => ⟨h, h ▸ hfamily⟩, fun h => h.1⟩
      · simp only [ne_eq, hfamily, not_false_eq_true, if_true, reduceCtorEq,
          Except.ok.injEq, false_iff, not_and]
        exact fun h => h ▸ hfamily

/-- Writing a new account and reading a word strictly are the same
relation. -/
theorem encode_eq_ok_iff_ofWordStrict :
    encode chainType raw = .ok w
      ↔ ofWordStrict w = .ok ⟨chainType, raw, Bytes.zero 8⟩ := by
  rw [encode_eq_ok_iff, ofWordStrict_eq_ok_iff, eq_toWord_iff]
  simp only [and_true]
  exact and_comm

theorem eq_new_of_ofWordStrict (h : ofWordStrict w = .ok a) :
    a = ⟨a.chainType, a.raw, Bytes.zero 8⟩ := by
  obtain ⟨-, -, hreserved⟩ := ofWordStrict_eq_ok_iff.mp h
  rw [← hreserved]

/-- The words that are read strictly are those that are written. -/
theorem exists_ofWordStrict_iff :
    (∃ a, ofWordStrict w = .ok a)
      ↔ ∃ chainType raw, encode chainType raw = .ok w := by
  constructor
  · intro ⟨a, ha⟩
    rw [eq_new_of_ofWordStrict ha] at ha
    exact ⟨_, _, encode_eq_ok_iff_ofWordStrict.mpr ha⟩
  · intro ⟨chainType, raw, h⟩
    exact ⟨_, encode_eq_ok_iff_ofWordStrict.mp h⟩

/-- Those that are read for one family are written for it. -/
theorem exists_ofWordAs_iff :
    (∃ a, ofWordAs w expected = .ok a)
      ↔ ∃ raw, encode expected raw = .ok w := by
  simp only [ofWordAs_eq_ok_iff]
  constructor
  · rintro ⟨a, ha, rfl⟩
    rw [eq_new_of_ofWordStrict ha] at ha
    exact ⟨_, encode_eq_ok_iff_ofWordStrict.mpr ha⟩
  · intro ⟨raw, h⟩
    exact ⟨_, encode_eq_ok_iff_ofWordStrict.mp h, rfl⟩

/-- One family and one address are written in one way. -/
theorem eq_of_ofWordStrict {b : Account} (hw : ofWordStrict w = .ok a)
    (hv : ofWordStrict v = .ok b) (family : a.chainType = b.chainType)
    (raw : a.raw = b.raw) : w = v := by
  have hsame : a = b := by
    rw [eq_new_of_ofWordStrict hw, eq_new_of_ofWordStrict hv, family, raw]
  obtain ⟨hw, -⟩ := ofWordStrict_eq_ok_iff.mp hw
  obtain ⟨hv, -⟩ := ofWordStrict_eq_ok_iff.mp hv
  rw [← toWord_ofWord w, hw, hsame, ← hv, toWord_ofWord]

end

-- ============================================================== what enters

/-- The words that the bridge takes for accounts: what a deposit names as
its destination, what a submission names as its source, and what an account
of this chain is turned into. -/
inductive Admitted (w : Word) : Prop
  /-- The account that a deposit is for. -/
  | destination {bytes : List UInt8} (taken : destAccountOf bytes = .ok w)
  /-- The account that a submission says it came from. -/
  | source {bytes : List UInt8} (taken : srcAccountOf bytes = .ok w)
  /-- An account of this chain, as depositor or recipient. -/
  | ours {account : Address} (taken : localAccount account = .ok w)

/-- Both checks of a word that came with a message let the same words pass. -/
theorem destAccountOf_eq_ok_iff_srcAccountOf {bytes : List UInt8} {w : Word} :
    destAccountOf bytes = .ok w ↔ srcAccountOf bytes = .ok w := by
  unfold destAccountOf srcAccountOf
  cases Bytes.ofList? 32 bytes with
  | none => simp
  | some v =>
      cases hv : ofWordStrict v with
      | ok a => simp [hv]
      | error e => simp [hv]

/-- They are those that are read strictly. -/
theorem srcAccountOf_eq_ok_iff {bytes : List UInt8} {w : Word} :
    srcAccountOf bytes = .ok w
      ↔ bytes = w.toList ∧ ∃ a, ofWordStrict w = .ok a := by
  rw [← Bytes.ofList?_eq_some_iff]
  unfold srcAccountOf
  cases Bytes.ofList? 32 bytes with
  | none => simp
  | some v =>
      cases hv : ofWordStrict v with
      | ok a =>
          simp only [hv, Except.ok.injEq, Option.some.injEq]
          exact ⟨fun h => ⟨h, a, h ▸ hv⟩, fun h => h.1⟩
      | error e =>
          simp only [hv, reduceCtorEq, Option.some.injEq, false_iff]
          rintro ⟨rfl, a, ha⟩
          cases hv.symm.trans ha

/-- An account of this chain is turned into the word of a new account. -/
theorem encode_of_localAccount {account : Address} {w : Word}
    (h : localAccount account = .ok w) :
    ∃ raw, encode cosmos raw = .ok w := by
  unfold localAccount ofCosmosAddress at h
  cases hread : readBech32Address account with
  | error e =>
      rw [hread] at h
      cases h
  | ok raw =>
      rw [hread] at h
      cases h
      exact ⟨raw, rfl⟩

/-- What enters is what is read strictly. -/
theorem admitted_iff {w : Word} :
    Admitted w ↔ ∃ a, ofWordStrict w = .ok a := by
  constructor
  · intro h
    cases h with
    | destination taken =>
        have hsource := destAccountOf_eq_ok_iff_srcAccountOf.mp taken
        exact (srcAccountOf_eq_ok_iff.mp hsource).2
    | source taken => exact (srcAccountOf_eq_ok_iff.mp taken).2
    | ours taken =>
        obtain ⟨raw, hraw⟩ := encode_of_localAccount taken
        exact exists_ofWordStrict_iff.mpr ⟨cosmos, raw, hraw⟩
  · intro h
    exact .source (srcAccountOf_eq_ok_iff.mpr ⟨rfl, h⟩)

/-- What enters denotes a family and an address, and nothing else that
enters denotes the same. -/
theorem Admitted.eq_of_same {v w : Word} (hv : Admitted v) (hw : Admitted w)
    (family : (ofWord v).chainType = (ofWord w).chainType)
    (raw : (ofWord v).raw = (ofWord w).raw) : v = w := by
  obtain ⟨a, ha⟩ := admitted_iff.mp hv
  obtain ⟨b, hb⟩ := admitted_iff.mp hw
  rw [(ofWordStrict_eq_ok_iff.mp ha).1, (ofWordStrict_eq_ok_iff.mp hb).1]
    at family raw
  exact eq_of_ofWordStrict ha hb family raw

-- ============================================================ what is on record

/-- The two accounts of every deposit on record came in. -/
theorem depositors_invariant :
    Invariant fun _ b =>
      b.deposits.Every fun d => Admitted d.srcAccount ∧ Admitted d.destAccount
      := by
  refine .ofBridge ?opened ?kept (fun h => h)
  case opened =>
    intro o
    obtain ⟨settings, -, hb, -⟩ := Bridge.setUp_eq_ok o.success
    rw [hb]
    exact Table.every_empty _
  case kept =>
    intro b c sender funds receipt b' r idle handled h
    rcases handled.deposited_or_kept with ⟨_, _, _, _, ⟨told⟩⟩ | ⟨kept, -⟩
    · rw [told.deposits_after]
      exact h.insert _ ⟨.ours told.srcAccount_eq,
        .destination told.destAccount_eq⟩
    · rw [kept]
      exact h

/-- A word stands on record as an account of a deposit or a withdrawal. -/
inductive OnRecord (b : Bridge) : Word → Prop
  | payer {hash : Word} {d : Deposit} (stored : b.deposits.get? hash = some d) :
      OnRecord b d.srcAccount
  | payee {hash : Word} {d : Deposit} (stored : b.deposits.get? hash = some d) :
      OnRecord b d.destAccount
  | origin {hash : Word} {w : Withdrawal}
      (stored : b.withdrawals.get? hash = some w) : OnRecord b w.srcAccount
  | recipient {hash : Word} {w : Withdrawal}
      (stored : b.withdrawals.get? hash = some w) : OnRecord b w.destAccount

/-- At every moment of every run the accounts on record came in. -/
theorem admitted_of_onRecord (r : Run) {w : Word}
    (h : OnRecord r.last.bridge w) : Admitted w := by
  have hdeposits := (depositors_invariant.throughout r).now
  obtain ⟨-, hwithdrawals⟩ := (checked_invariant.throughout r).now
  cases h with
  | payer stored => exact (hdeposits _ _ stored).1
  | payee stored => exact (hdeposits _ _ stored).2
  | origin stored => exact admitted_iff.mpr (hwithdrawals _ _ stored).source
  | recipient stored => exact .ours (hwithdrawals _ _ stored).account

-- ============================================================== the statement

/-- Accounts and words are in bijection. A new account is written as a word
just when the word is read strictly as that account and no other; so what is
read strictly is what is written, in all and for each family. That is also
what the bridge takes for accounts, all those on record among it: so a
family and an address come in as one word only. -/
theorem word_bijection :
    (∀ a : Account, ofWord a.toWord = a)
      ∧ (∀ w : Word, (ofWord w).toWord = w)
      ∧ (∀ chainType raw w, encode chainType raw = .ok w
        ↔ ofWordStrict w = .ok ⟨chainType, raw, Bytes.zero 8⟩)
      ∧ (∀ w, (∃ a, ofWordStrict w = .ok a)
        ↔ ∃ chainType raw, encode chainType raw = .ok w)
      ∧ (∀ w expected, (∃ a, ofWordAs w expected = .ok a)
        ↔ ∃ raw, encode expected raw = .ok w)
      ∧ (∀ w, Admitted w ↔ ∃ chainType raw, encode chainType raw = .ok w)
      ∧ (∀ (r : Run) w, OnRecord r.last.bridge w → Admitted w)
      ∧ ∀ v w, Admitted v → Admitted w →
        (ofWord v).chainType = (ofWord w).chainType →
        (ofWord v).raw = (ofWord w).raw → v = w :=
  ⟨ofWord_toWord, toWord_ofWord, fun _ _ _ => encode_eq_ok_iff_ofWordStrict,
    fun _ => exists_ofWordStrict_iff, fun _ _ => exists_ofWordAs_iff,
    fun _ => admitted_iff.trans exists_ofWordStrict_iff,
    fun r _ => admitted_of_onRecord r, fun _ _ => Admitted.eq_of_same⟩

/-- A family without a meaning is accepted, a reserved byte is not. -/
example :
    ofWordStrict (toWord ⟨0xdeadbeef, Bytes.zero 20, Bytes.zero 8⟩)
        = .ok ⟨0xdeadbeef, Bytes.zero 20, Bytes.zero 8⟩
      ∧ ofWordStrict (toWord ⟨0xdeadbeef, Bytes.zero 20, Bytes.ofNat 8 1⟩)
        = .error .reservedNotZero := by
  decide

end Account

end TokenBridge
