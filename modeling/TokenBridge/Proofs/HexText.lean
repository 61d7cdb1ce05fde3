/-
Which texts are hexadecimal, and of which bytes.

Bytes are as good as their halves, the high one before the low one
(`halves`), and each half is one digit. So the texts of sized bytes are the
digits of their halves, in either letter case, bare or after "0x" (`Marked`).
A reader measures a text in UTF-8 bytes before it looks at the first digit;
since digits are one byte each, that refuses nothing that would be read, and
what it lets pass by accident is no row of digits. The mark is taken off
once: a second one is no digit.

Everything said here is said of one reader for every number of bytes. The
reader of EVM addresses is that one for twenty.
-/
import TokenBridge.Account
import TokenBridge.Proofs.Numerals

namespace TokenBridge

open Text

-- ============================================================ bytes and halves

/-- The halves of bytes, the high one first. -/
def halves (bytes : List UInt8) : List Nat :=
  bytes.flatMap fun b => [b.toNat / 16, b.toNat % 16]

theorem halves_cons (b : UInt8) (rest : List UInt8) :
    halves (b :: rest) = b.toNat / 16 :: b.toNat % 16 :: halves rest := rfl

/-- There are two halves to a byte. -/
theorem length_halves (bytes : List UInt8) :
    (halves bytes).length = 2 * bytes.length := by
  induction bytes with
  | nil => rfl
  | cons b rest ih =>
      rw [halves_cons, List.length_cons, List.length_cons, ih, List.length_cons]
      omega

/-- A half is a digit of base sixteen. -/
theorem lt_of_mem_halves {bytes : List UInt8} {d : Nat}
    (h : d ∈ halves bytes) : d < 16 := by
  obtain ⟨b, -, hd⟩ := List.mem_flatMap.mp h
  have hb : b.toNat < 256 := b.toNat_lt
  rcases List.mem_pair.mp hd with rfl | rfl
  · omega
  · omega

/-- Two halves make one byte. -/
theorem halves_ofNat_cons {high low : Nat} (hhigh : high < 16)
    (hlow : low < 16) (rest : List UInt8) :
    halves (UInt8.ofNat (high * 16 + low) :: rest)
      = high :: low :: halves rest := by
  have hbyte : (UInt8.ofNat (high * 16 + low)).toNat = high * 16 + low := by
    rw [UInt8.toNat_ofNat']
    omega
  have hdiv : (high * 16 + low) / 16 = high := by omega
  have hmod : (high * 16 + low) % 16 = low := by omega
  rw [halves_cons, hbyte, hdiv, hmod]

/-- What is written are the usual digits of the halves. -/
theorem hexDigits_eq_map (bytes : List UInt8) :
    hexDigits bytes = (halves bytes).map Nat.digitChar := by
  unfold hexDigits halves
  rw [List.map_flatMap]
  rfl

/-- The digits that are written stand for the halves. -/
theorem areDigits_hexDigits (bytes : List UInt8) :
    AreDigits 16 (hexDigits bytes) (halves bytes) := by
  rw [hexDigits_eq_map]
  exact areDigits_map_digitChar (Nat.le_refl 16) fun _ => lt_of_mem_halves

/-- So a row of digits for `n` bytes is `2 * n` long. -/
theorem length_of_areDigits_halves {n : Nat} {a : Bytes n} {cs : List Char}
    (h : AreDigits 16 cs (halves a.toList)) : cs.length = 2 * n := by
  rw [h.length_eq, length_halves, a.length_toList]

/-- Two digits are of one byte, those that follow are of the other bytes. -/
theorem areDigits_halves_iff {high low : Char} {rest : List Char}
    {bytes : List UInt8} :
    AreDigits 16 (high :: low :: rest) (halves bytes)
      ↔ ∃ h l tail, IsDigit 16 high h ∧ IsDigit 16 low l
        ∧ AreDigits 16 rest (halves tail)
        ∧ bytes = UInt8.ofNat (h * 16 + l) :: tail := by
  constructor
  · intro hdigits
    cases bytes with
    | nil => cases hdigits
    | cons b tail =>
        obtain ⟨hhigh, hmore⟩ := List.forall₂_cons.mp hdigits
        obtain ⟨hlow, hrest⟩ := List.forall₂_cons.mp hmore
        refine ⟨_, _, tail, hhigh, hlow, hrest, ?_⟩
        rw [Nat.div_add_mod', UInt8.ofNat_toNat]
  · rintro ⟨h, l, tail, hhigh, hlow, hrest, rfl⟩
    rw [halves_ofNat_cons hhigh.1 hlow.1]
    exact .cons hhigh (.cons hlow hrest)

/-- Bytes are written with the mark, then their digits. -/
theorem Bytes.toList_toHex {n : Nat} (a : Bytes n) :
    a.toHex.toList = '0' :: 'x' :: hexDigits a.toList :=
  String.toList_ofList

/-- What is read are the bytes whose halves the digits stand for. -/
theorem readHexDigits?_eq_some_iff {cs : List Char} {bytes : List UInt8} :
    readHexDigits? cs = some bytes ↔ AreDigits 16 cs (halves bytes) := by
  fun_induction readHexDigits? cs generalizing bytes with
  | case1 =>
      cases bytes with
      | nil => exact iff_of_true rfl .nil
      | cons b rest => exact iff_of_false nofun nofun
  | case2 c =>
      refine iff_of_false nofun fun h => ?_
      have hlength := h.length_eq
      rw [length_halves, List.length_singleton] at hlength
      omega
  | case3 high low rest h l bytes' hrest hlow hhigh ih =>
      rw [areDigits_halves_iff, Option.some.injEq]
      constructor
      · rintro rfl
        exact ⟨h, l, bytes', hexValue?_eq_some_iff.mp hhigh,
          hexValue?_eq_some_iff.mp hlow, ih.mp hrest, rfl⟩
      · rintro ⟨h', l', tail, hhigh', hlow', hrest', rfl⟩
        cases hhigh.symm.trans (hexValue?_eq_some_iff.mpr hhigh')
        cases hlow.symm.trans (hexValue?_eq_some_iff.mpr hlow')
        cases hrest.symm.trans (ih.mpr hrest')
        rfl
  | case4 high low rest hnone ih =>
      refine iff_of_false nofun fun hdigits => ?_
      obtain ⟨h, l, tail, hhigh, hlow, hrest, -⟩ :=
        areDigits_halves_iff.mp hdigits
      exact hnone h l tail (hexValue?_eq_some_iff.mpr hhigh)
        (hexValue?_eq_some_iff.mpr hlow) (ih.mpr hrest)

/-- Any two digits for each byte are of some bytes. -/
theorem exists_areDigits_halves {n : Nat} {cs : List Char}
    (length : cs.length = 2 * n) (all : ∀ c ∈ cs, ∃ d, IsDigit 16 c d) :
    ∃ a : Bytes n, AreDigits 16 cs (halves a.toList) := by
  induction n generalizing cs with
  | zero =>
      rw [List.length_eq_zero_iff.mp length]
      exact ⟨⟨[], rfl⟩, .nil⟩
  | succ n ih =>
      -- a shorter list has no such length
      match cs with
      | high :: low :: rest =>
          simp only [List.forall_mem_cons] at all
          obtain ⟨⟨h, hhigh⟩, ⟨l, hlow⟩, hall⟩ := all
          have hrest : rest.length = 2 * n := by
            simp only [List.length_cons] at length
            omega
          obtain ⟨a, ha⟩ := ih hrest hall
          refine ⟨⟨UInt8.ofNat (h * 16 + l) :: a.toList, ?_⟩, ?_⟩
          · rw [List.length_cons, a.length_toList]
          · exact areDigits_halves_iff.mpr
              ⟨h, l, a.toList, hhigh, hlow, ha, rfl⟩

-- ==================================================================== the mark

/-- A text is so many characters, bare or after one "0x". -/
def Marked (count : Nat) (text : String) (digits : List Char) : Prop :=
  digits.length = count
    ∧ (text.toList = digits ∨ text.toList = '0' :: 'x' :: digits)

/-- There is one way to take the mark off that leaves so many characters. -/
theorem Marked.unique {count : Nat} {text : String}
    {digits digits' : List Char} (h : Marked count text digits)
    (h' : Marked count text digits') : digits = digits' := by
  obtain ⟨hcount, h⟩ := h
  obtain ⟨hcount', h'⟩ := h'
  have hlength : digits.length = digits'.length := hcount.trans hcount'.symm
  rcases h with h | h
  · rcases h' with h' | h'
    · exact h.symm.trans h'
    · rw [h] at h'
      rw [h', List.length_cons, List.length_cons] at hlength
      omega
  · rcases h' with h' | h'
    · rw [h'] at h
      rw [h, List.length_cons, List.length_cons] at hlength
      omega
    · rw [h] at h'
      cases h'
      rfl

/-- Taking the mark off leaves the digits, where it leaves so many
characters. -/
theorem marked_withoutHexMark {count : Nat} {text : String}
    (length : (withoutHexMark text.toList).length = count) :
    Marked count text (withoutHexMark text.toList) := by
  refine ⟨length, ?_⟩
  generalize text.toList = cs
  unfold withoutHexMark
  split
  · exact .inr rfl
  · exact .inl rfl

/-- The mark is no row of digits. -/
theorem withoutHexMark_of_areDigits {count : Nat} {text : String}
    {digits : List Char} {ds : List Nat} (h : Marked count text digits)
    (hds : AreDigits 16 digits ds) :
    withoutHexMark text.toList = digits := by
  have hx : ¬∃ d, IsDigit 16 'x' d := fun ⟨d, hd⟩ => by
    cases hexValue?_eq_some_iff.mpr hd
  rcases h.2 with h | h
  · rw [h]
    unfold withoutHexMark
    split
    next rest =>
      exact absurd (hds.isDigit_of_mem
        (List.mem_cons_of_mem '0' List.mem_cons_self)) hx
    next => rfl
  · rw [h]
    rfl

-- ================================================================== the reader

/-- Digits are one byte each. -/
theorem utf8Length_of_areDigits {base : Nat} {cs : List Char} {ds : List Nat}
    (small : base ≤ 16) (h : AreDigits base cs ds) :
    utf8Length cs = cs.length := by
  induction h with
  | nil => rfl
  | @cons c d cs ds hc _ ih =>
      have hsize : c.utf8Size = 1 := by
        rw [Char.utf8Size_eq_one_iff, UInt32.le_iff_toNat_le]
        have hvisible := (hc.visible small).2
        exact Nat.le_succ_of_le hvisible
      rw [utf8Length, hsize, ih, List.length_cons, Nat.add_comm]

variable {n count : Nat} {text : String} {digits : List Char} {a : Bytes n}

/-- The measure in UTF-8 bytes refuses no digits. -/
theorem Bytes.ofHex_eq_ok_iff :
    Bytes.ofHex n text = .ok a
      ↔ AreDigits 16 (withoutHexMark text.toList) (halves a.toList) := by
  rw [← readHexDigits?_eq_some_iff]
  constructor
  · intro h
    simp only [ofHex] at h
    split at h
    case isTrue => cases h
    case isFalse =>
      split at h
      next found hfound =>
        cases h
        obtain ⟨bytes, hread, hsized⟩ := Option.bind_eq_some_iff.mp hfound
        rw [hread, ofList?_eq_some_iff.mp hsized]
      next => cases h
  · intro h
    have hdigits := readHexDigits?_eq_some_iff.mp h
    have hlength : utf8Length (withoutHexMark text.toList) = 2 * n := by
      rw [utf8Length_of_areDigits (Nat.le_refl 16) hdigits,
        length_of_areDigits_halves hdigits]
    unfold ofHex
    simp only [hlength, ne_eq, not_true, if_false, h, Option.bind_some,
      ofList?_toList]

/-- A reader reads so many digits of base sixteen, in either letter case,
after "0x" or bare: those texts and no others. What it reads are the bytes
whose halves the digits stand for, the high one first. It reads back what is
written, and what it has read is written with the mark and in lower case. -/
structure ReadsHex {ε : Type} {n : Nat} (count : Nat)
    (read : String → Except ε (Bytes n)) : Prop where
  accepts : ∀ text, (∃ a, read text = .ok a)
    ↔ ∃ digits, Marked count text digits
      ∧ ∀ c ∈ digits, ∃ d, IsDigit 16 c d
  value : ∀ text digits a, Marked count text digits →
    (read text = .ok a ↔ AreDigits 16 digits (halves a.toList))
  written : ∀ a, read a.toHex = .ok a
  again : ∀ text digits a, Marked count text digits → read text = .ok a →
    a.toHex.toList = '0' :: 'x' :: digits.map Char.toLower

/-- Readers that read the same from every text read the same digits. -/
theorem ReadsHex.congr {ε ε' : Type} {read : String → Except ε (Bytes n)}
    {read' : String → Except ε' (Bytes n)} (h : ReadsHex count read)
    (same : ∀ text a, read' text = .ok a ↔ read text = .ok a) :
    ReadsHex count read' where
  accepts text := by
    simp only [same]
    exact h.accepts text
  value text digits a := by
    rw [same]
    exact h.value text digits a
  written a := (same _ a).mpr (h.written a)
  again text digits a hmarked hread :=
    h.again text digits a hmarked ((same text a).mp hread)

/-- Marked digits of the right count are read as the bytes they stand for. -/
theorem Bytes.ofHex_eq_ok_iff_of_marked (h : Marked (2 * n) text digits) :
    ofHex n text = .ok a ↔ AreDigits 16 digits (halves a.toList) := by
  rw [ofHex_eq_ok_iff]
  constructor
  · intro hdigits
    have hrest := marked_withoutHexMark (length_of_areDigits_halves hdigits)
    rw [h.unique hrest]
    exact hdigits
  · intro hdigits
    rw [withoutHexMark_of_areDigits h hdigits]
    exact hdigits

/-- Two digits for each byte, for every number of bytes. -/
theorem readsHex_ofHex (n : Nat) : ReadsHex (2 * n) (Bytes.ofHex n) where
  accepts text := by
    constructor
    · intro ⟨a, ha⟩
      have hdigits := Bytes.ofHex_eq_ok_iff.mp ha
      exact ⟨_, marked_withoutHexMark (length_of_areDigits_halves hdigits),
        fun c => hdigits.isDigit_of_mem⟩
    · intro ⟨digits, hmarked, hall⟩
      obtain ⟨a, ha⟩ := exists_areDigits_halves hmarked.1 hall
      exact ⟨a, (Bytes.ofHex_eq_ok_iff_of_marked hmarked).mpr ha⟩
  value text digits a := Bytes.ofHex_eq_ok_iff_of_marked
  written a := by
    have hdigits := areDigits_hexDigits a.toList
    have hmarked : Marked (2 * n) a.toHex (hexDigits a.toList) :=
      ⟨length_of_areDigits_halves hdigits, .inr a.toList_toHex⟩
    exact (Bytes.ofHex_eq_ok_iff_of_marked hmarked).mpr hdigits
  again text digits a hmarked hread := by
    have hdigits := (Bytes.ofHex_eq_ok_iff_of_marked hmarked).mp hread
    rw [hdigits.map_toLower, ← hexDigits_eq_map, a.toList_toHex]

-- =============================================================== EVM addresses

namespace Account

/-- The reader of EVM addresses reads what the hex reader reads. -/
theorem readEvmAddress_eq_ok_iff {raw : Bytes 20} :
    readEvmAddress text = .ok raw ↔ Bytes.ofHex 20 text = .ok raw := by
  unfold readEvmAddress
  cases Bytes.ofHex 20 text with
  | ok found => simp
  | error e => simp

theorem readsHex_readEvmAddress : ReadsHex 40 readEvmAddress :=
  (readsHex_ofHex 20).congr fun _ _ => readEvmAddress_eq_ok_iff

/-- The accounts that addresses are read as: of their family and new. -/
theorem ofEvmAddress_eq_ok_iff {account : Account} :
    ofEvmAddress text = .ok account
      ↔ account.chainType = evm ∧ account.reserved = Bytes.zero 8
        ∧ readEvmAddress text = .ok account.raw := by
  unfold ofEvmAddress
  cases readEvmAddress text with
  | error e => simp
  | ok raw =>
      obtain ⟨chainType, raw', reserved⟩ := account
      show Except.ok (⟨evm, raw, Bytes.zero 8⟩ : Account) = _ ↔ _
      simp only [Except.ok.injEq, Account.mk.injEq, eq_comm]
      exact ⟨fun ⟨hf, hr, hz⟩ => ⟨hf, hz, hr⟩, fun ⟨hf, hz, hr⟩ => ⟨hf, hr, hz⟩⟩

/-- The address of a new account is its bytes, written. -/
theorem toEvmAddress_eq {account : Account} (family : account.chainType = evm) :
    account.toEvmAddress = .ok account.raw.toHex := by
  unfold toEvmAddress
  rw [family]
  rfl

end Account

/-- Hexadecimal texts, read and written: of words, of chains, and of EVM
addresses. A new account of the EVM family is written as an address that is
read as this account, and an account that was read is written with the mark
and the digits it was read from, in lower case. -/
theorem hex_texts_exact :
    ReadsHex 64 (Bytes.ofHex 32)
      ∧ ReadsHex 8 (Bytes.ofHex 4)
      ∧ ReadsHex 40 Account.readEvmAddress
      ∧ (∀ a : Account, a.chainType = Account.evm →
        a.reserved = Bytes.zero 8 → ∃ text, a.toEvmAddress = .ok text
          ∧ Account.ofEvmAddress text = .ok a)
      ∧ ∀ text digits a, Marked 40 text digits →
        Account.ofEvmAddress text = .ok a → ∃ text', a.toEvmAddress = .ok text'
          ∧ text'.toList = '0' :: 'x' :: digits.map Char.toLower := by
  have hreader := Account.readsHex_readEvmAddress
  refine ⟨readsHex_ofHex 32, readsHex_ofHex 4, hreader, ?_, ?_⟩
  · intro a family reserved
    refine ⟨_, Account.toEvmAddress_eq family, ?_⟩
    exact Account.ofEvmAddress_eq_ok_iff.mpr
      ⟨family, reserved, hreader.written a.raw⟩
  · intro text digits a hmarked ha
    obtain ⟨family, -, hraw⟩ := Account.ofEvmAddress_eq_ok_iff.mp ha
    exact ⟨_, Account.toEvmAddress_eq family,
      hreader.again text digits a.raw hmarked hraw⟩

/-- A second mark is not taken off, even where the number of characters is
right with it. -/
example : (Bytes.ofHex 4 "0x0xabcdef").toOption = none
    ∧ (Bytes.ofHex 4 "00ABcdEf").toOption.map Bytes.toHex
      = some "0x00abcdef" := by
  decide

end TokenBridge
