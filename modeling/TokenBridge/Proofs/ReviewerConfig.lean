/-
Which texts configure a reviewer, and how.

A text is read without the blanks at its ends (`Trimmed`). What is left
names a chain if it is a numeral of base ten, or "0x" and a numeral of base
sixteen (`ChainNumeral`), of a number that four bytes hold and that is not
zero. So a chain has many names, with zeros before the digits or a sign.
Among them are the two that it is written as: its bytes in hexadecimal and
its number in decimal. Hexadecimal texts of four bytes name the chain that
they are the bytes of.

A window is a numeral of base ten, or no text at all (`GivesWindow`).
-/
import TokenBridge.Proofs.Bytes
import TokenBridge.Proofs.HexText
import TokenBridge.Reviewer.Config

namespace TokenBridge

-- ==================================================================== blanks

namespace Text

/-- What is left of characters without the blanks at their ends. -/
structure Trimmed (chars core : List Char) : Prop where
  /-- What is taken off on either side is blank. -/
  around : ∃ before after, chars = before ++ core ++ after
    ∧ (∀ c ∈ before, isBlank c = true) ∧ ∀ c ∈ after, isBlank c = true
  first : ∀ c ∈ core.head?, isBlank c = false
  last : ∀ c ∈ core.getLast?, isBlank c = false

/-- At one end: what is dropped is blank, what comes next is not. -/
theorem dropWhile_isBlank_eq_iff {chars core : List Char} :
    chars.dropWhile isBlank = core
      ↔ (∃ before, chars = before ++ core ∧ ∀ c ∈ before, isBlank c = true)
        ∧ ∀ c ∈ core.head?, isBlank c = false := by
  constructor
  · rintro rfl
    refine ⟨⟨chars.takeWhile isBlank, ?_, ?_⟩, ?_⟩
    · exact List.takeWhile_append_dropWhile.symm
    · exact List.all_eq_true.mp List.all_takeWhile
    · intro c hc
      have hfirst := List.head?_dropWhile_not isBlank chars
      rw [Option.mem_def.mp hc] at hfirst
      exact hfirst
  · rintro ⟨⟨before, rfl, hbefore⟩, hfirst⟩
    rw [List.dropWhile_append_of_pos hbefore]
    cases core with
    | nil => rfl
    | cons c rest =>
        have hc : ¬isBlank c = true := by
          rw [hfirst c rfl]
          exact Bool.false_ne_true
        exact List.dropWhile_cons_of_neg hc

/-- Trimming leaves exactly the core: the text without the blanks around it. -/
theorem trimChars_eq_iff {chars core : List Char} :
    trimChars chars = core ↔ Trimmed chars core := by
  unfold trimChars
  rw [List.reverse_eq_iff, dropWhile_isBlank_eq_iff]
  constructor
  · rintro ⟨⟨after, hfront, hafter⟩, hlast⟩
    rw [List.reverse_eq_iff, List.reverse_append, List.reverse_reverse,
      dropWhile_isBlank_eq_iff] at hfront
    obtain ⟨⟨before, hchars, hbefore⟩, hfirst⟩ := hfront
    refine ⟨⟨before, after.reverse, ?_, hbefore, ?_⟩, ?_, ?_⟩
    · rw [hchars, List.append_assoc]
    · exact fun c hc => hafter c (List.mem_reverse.mp hc)
    · intro c hc
      apply hfirst c
      rw [List.head?_append, Option.mem_def.mp hc]
      rfl
    · rw [← List.head?_reverse]
      exact hlast
  · rintro ⟨⟨before, after, rfl, hbefore, hafter⟩, hfirst, hlast⟩
    -- what is dropped from the front stops at the core, or takes all of it
    refine ⟨?_, by rw [List.head?_reverse]; exact hlast⟩
    cases core with
    | nil =>
        -- all is blank, and dropped from the front already
        have hfront : (before ++ [] ++ after).dropWhile isBlank = [] := by
          refine dropWhile_isBlank_eq_iff.mpr
            ⟨⟨_, (List.append_nil _).symm, ?_⟩, nofun⟩
          rw [List.append_nil]
          exact List.forall_mem_append.mpr ⟨hbefore, hafter⟩
        rw [hfront]
        exact ⟨[], rfl, nofun⟩
    | cons c rest =>
        have hfront : (before ++ (c :: rest) ++ after).dropWhile isBlank
            = c :: rest ++ after :=
          dropWhile_isBlank_eq_iff.mpr
            ⟨⟨before, List.append_assoc .., hbefore⟩, hfirst⟩
        refine ⟨after.reverse, ?_, ?_⟩
        · rw [hfront, List.reverse_append]
        · exact fun d hd => hafter d (List.mem_reverse.mp hd)

theorem isBlank_of_visible {c : Char} (h : 33 ≤ c.toNat ∧ c.toNat ≤ 126) :
    isBlank c = false := by
  simp only [isBlank, Bool.or_eq_false_iff, Bool.and_eq_false_iff,
    decide_eq_false_iff_not, beq_eq_false_iff_ne]
  omega

/-- Visible characters have no blanks at their ends. -/
theorem trimmed_of_visible {chars : List Char}
    (h : ∀ c ∈ chars, 33 ≤ c.toNat ∧ c.toNat ≤ 126) : Trimmed chars chars where
  around := ⟨[], [], (List.append_nil chars).symm, nofun, nofun⟩
  first c hc := isBlank_of_visible (h c (List.mem_of_mem_head? hc))
  last c hc := isBlank_of_visible (h c (List.mem_of_mem_getLast? hc))

end Text

-- ========================================================== bytes as a numeral

open Text

/-- The halves of bytes in a row are their halves in a row. -/
theorem halves_append (bytes bytes' : List UInt8) :
    halves (bytes ++ bytes') = halves bytes ++ halves bytes' :=
  List.flatMap_append

/-- Bytes and their halves are digits of the same number. -/
theorem ofDigits_halves (bytes : List UInt8) :
    Nat.ofDigits 16 (halves bytes).reverse = ofBigEndian bytes := by
  induction bytes using List.reverseRecOn with
  | nil => rfl
  | append_singleton bytes b ih =>
      have hlast : (halves (bytes ++ [b])).reverse
          = b.toNat % 16 :: b.toNat / 16 :: (halves bytes).reverse := by
        rw [halves_append, List.reverse_append]
        rfl
      rw [hlast, Nat.ofDigits_cons, Nat.ofDigits_cons, ih, ofBigEndian_append]
      omega

namespace Bytes

variable {n : Nat} {a : Bytes n} {digits : List Char}

/-- The digits of the halves denote the number of the bytes. -/
theorem denote_of_areDigits (h : AreDigits 16 digits (halves a.toList))
    (some : 0 < n) : Denote 16 digits a.toNat := by
  refine ⟨?_, _, h, (ofDigits_halves a.toList).symm⟩
  rintro rfl
  have hlength := length_of_areDigits_halves h
  rw [List.length_nil] at hlength
  omega

/-- Bytes are the numeral zero exactly when they are all zero. -/
theorem toNat_eq_zero_iff : a.toNat = 0 ↔ a = ofNat n 0 := by
  constructor
  · intro h
    rw [← h, ofNat_toNat]
  · rintro rfl
    exact toNat_ofNat (Nat.pow_pos (by decide))

end Bytes

-- =========================================================== numbers of chains

namespace Reviewer

/-- A text of a chain number: a numeral of base ten, or "0x" and one of base
sixteen. -/
def ChainNumeral (cs : List Char) (n : Nat) : Prop :=
  (∃ digits, cs = '0' :: 'x' :: digits ∧ IsNumeral 16 digits n)
    ∨ IsNumeral 10 cs n

section

variable {cs digits : List Char} {n : Nat} {text : String} {id : ChainId}

/-- After the mark the base is sixteen. -/
theorem chainNumeral_marked_iff :
    ChainNumeral ('0' :: 'x' :: digits) n ↔ IsNumeral 16 digits n := by
  constructor
  · rintro (⟨_, hcs, h⟩ | h)
    · cases hcs
      exact h
    · have hbare : ∀ rest, '0' :: 'x' :: digits ≠ '+' :: rest :=
        fun _ hcs => absurd (List.cons.inj hcs).1 (by decide)
      have hdenote := (isNumeral_bare_iff hbare).mp h
      have hx : 'x' ∈ '0' :: 'x' :: digits :=
        List.mem_cons_of_mem '0' List.mem_cons_self
      exact absurd hx (hdenote.not_mem (by decide) (by decide))
  · exact fun h => .inl ⟨digits, rfl, h⟩

/-- A chain numeral is visible ASCII, so trimming leaves it alone. -/
theorem ChainNumeral.visible (h : ChainNumeral cs n) :
    ∀ c ∈ cs, 33 ≤ c.toNat ∧ c.toNat ≤ 126 := by
  rcases h with ⟨digits, rfl, h⟩ | h
  · have hdigits := h.visible (by decide)
    exact List.forall_mem_cons.mpr
      ⟨by decide, List.forall_mem_cons.mpr ⟨by decide, hdigits⟩⟩
  · exact h.visible (by decide)

/-- A number is read exactly from a chain numeral below the limit. -/
theorem chainNumber?_eq_some_iff :
    chainNumber? cs = some n ↔ ChainNumeral cs n ∧ n < chainLimit := by
  unfold chainNumber?
  split
  next digits =>
    rw [readBelow?_eq_some_iff (by decide), chainNumeral_marked_iff]
  next hbare =>
    rw [readBelow?_eq_some_iff (by decide)]
    refine and_congr_left fun _ => ⟨.inr, ?_⟩
    rintro (⟨digits, hcs, -⟩ | h)
    · exact absurd hcs (hbare digits)
    · exact h

/-- The texts of a chain. -/
theorem readChainId_eq_ok_iff :
    readChainId text = .ok id
      ↔ ∃ core n, Trimmed text.toList core ∧ ChainNumeral core n
        ∧ 1 ≤ n ∧ n ≤ 0xffffffff ∧ id = Bytes.ofNat 4 n := by
  have hread : readChainId text = .ok id
      ↔ ∃ n, chainNumber? (trimChars text.toList) = some n ∧ n ≠ 0
        ∧ id = Bytes.ofNat 4 n := by
    unfold readChainId trim
    simp only [String.toList_ofList]
    cases chainNumber? (trimChars text.toList) with
    | none => simp
    | some n =>
        by_cases hn : n = 0
        · simp [hn]
        · simp [hn, eq_comm]
  rw [hread]
  constructor
  · rintro ⟨n, hnumber, hn, hid⟩
    obtain ⟨hnumeral, hlimit⟩ := chainNumber?_eq_some_iff.mp hnumber
    exact ⟨_, n, trimChars_eq_iff.mp rfl, hnumeral, Nat.pos_of_ne_zero hn,
      Nat.le_of_lt_succ hlimit, hid⟩
  · rintro ⟨core, n, htrim, hnumeral, hpos, hle, hid⟩
    rw [trimChars_eq_iff.mpr htrim]
    exact ⟨n, chainNumber?_eq_some_iff.mpr
      ⟨hnumeral, Nat.lt_succ_of_le hle⟩, Nat.ne_of_gt hpos, hid⟩

/-- A numeral of the number of a chain names this chain, unless that is
zero. -/
theorem readChainId_of_chainNumeral (h : ChainNumeral text.toList id.toNat) :
    readChainId text
      = if id = Bytes.zero 4 then .error .zeroChainId else .ok id := by
  have htrim : trimChars text.toList = text.toList :=
    trimChars_eq_iff.mpr (trimmed_of_visible h.visible)
  have hnumber : chainNumber? text.toList = some id.toNat :=
    chainNumber?_eq_some_iff.mpr ⟨h, id.toNat_lt⟩
  have hzero : id.toNat = 0 ↔ id = Bytes.zero 4 := Bytes.toNat_eq_zero_iff
  simp only [readChainId, trim, htrim, String.toList_ofList, hnumber, hzero,
    Bytes.ofNat_toNat]

theorem readChainId_of_areDigits (marked : text.toList = '0' :: 'x' :: digits)
    (h : AreDigits 16 digits (halves id.toList)) :
    readChainId text
      = if id = Bytes.zero 4 then .error .zeroChainId else .ok id := by
  apply readChainId_of_chainNumeral
  rw [marked, chainNumeral_marked_iff]
  exact (Bytes.denote_of_areDigits h (by decide)).isNumeral

/-- What is written of a chain id in hex is read back. -/
theorem readChainId_toHex (nonzero : id ≠ Bytes.zero 4) :
    readChainId id.toHex = .ok id := by
  have hdigits := areDigits_hexDigits id.toList
  rw [readChainId_of_areDigits id.toList_toHex hdigits, if_neg nonzero]

theorem readChainId_repr (nonzero : id ≠ Bytes.zero 4) :
    readChainId (Nat.repr id.toNat) = .ok id := by
  have hdigits : Denote 10 (Nat.toDigits 10 id.toNat) id.toNat :=
    denote_toDigits (by decide) (by decide) id.toNat
  rw [readChainId_of_chainNumeral (.inr ?_), if_neg nonzero]
  rw [Nat.repr_eq_ofList_toDigits, String.toList_ofList]
  exact hdigits.isNumeral

/-- Both readers of four bytes in hexadecimal read the same, but for the
name of no chain. -/
theorem ofHex_and_readChainId (marked : text.toList = '0' :: 'x' :: digits)
    (length : digits.length = 8) (all : ∀ c ∈ digits, ∃ d, IsDigit 16 c d) :
    ∃ id, Bytes.ofHex 4 text = .ok id
      ∧ readChainId text
        = if id = Bytes.zero 4 then .error .zeroChainId else .ok id := by
  have hpairs : digits.length = 2 * 4 := length
  obtain ⟨id, hid⟩ := exists_areDigits_halves hpairs all
  exact ⟨id, (Bytes.ofHex_eq_ok_iff_of_marked ⟨length, .inr marked⟩).mpr hid,
    readChainId_of_areDigits marked hid⟩

end

-- ==================================================================== windows

/-- A text gives a window if it is a decimal numeral of an accepted number of
seconds; no text gives the usual window. -/
inductive GivesWindow : Option String → UInt64 → Prop
  /-- Without a text, the default of five minutes. -/
  | absent : GivesWindow none 300
  | text {text : String} {core : List Char} {n : Nat}
      (trimmed : Trimmed text.toList core) (numeral : IsNumeral 10 core n)
      (least : 15 ≤ n) (most : n ≤ 86400) :
      GivesWindow (some text) (UInt64.ofNat n)

/-- A number that a word of sixty-four bits holds is checked as it is. -/
theorem isValid_ofNat_iff {n : Nat} (h : n < word64Limit) :
    ReviewWindow.isValid (UInt64.ofNat n) = true ↔ 15 ≤ n ∧ n ≤ 86400 := by
  rw [ReviewWindow.isValid_iff, UInt64.toNat_ofNat_of_lt' h]

/-- A window is read exactly from the texts that give it, and defaults where
there is none. -/
theorem readWindow_eq_ok_iff {window : Option String} {seconds : UInt64} :
    readWindow window = .ok seconds ↔ GivesWindow window seconds := by
  constructor
  · intro h
    unfold readWindow at h
    split at h
    next =>
      cases h
      exact .absent
    next text =>
      split at h
      next => cases h
      next n hread =>
        simp only at h
        split at h
        case isFalse => cases h
        case isTrue hvalid =>
          cases h
          obtain ⟨hnumeral, hlimit⟩ :=
            (readBelow?_eq_some_iff (by decide)).mp hread
          obtain ⟨hleast, hmost⟩ := (isValid_ofNat_iff hlimit).mp hvalid
          exact .text (trimChars_eq_iff.mp rfl) hnumeral hleast hmost
  · intro h
    cases h with
    | absent => rfl
    | @text text core n trimmed numeral least most =>
        have hlimit : n < word64Limit :=
          Nat.lt_of_le_of_lt most (by decide)
        have hread : readBelow? 10 word64Limit (trimChars text.toList)
            = some n := by
          rw [trimChars_eq_iff.mpr trimmed]
          exact (readBelow?_eq_some_iff (by decide)).mpr ⟨numeral, hlimit⟩
        have hvalid := (isValid_ofNat_iff hlimit).mpr ⟨least, most⟩
        simp only [readWindow, hread, hvalid, if_true]

-- ============================================================= configurations

/-- A configuration is made exactly of a chain and a window that are read. -/
theorem Config.ofTexts_eq_ok_iff {chain name : String}
    {window : Option String} {config : Config} :
    Config.ofTexts chain window name = .ok config
      ↔ ∃ id seconds, readChainId chain = .ok id
        ∧ GivesWindow window seconds ∧ config = ⟨id, seconds, name⟩ := by
  simp only [← readWindow_eq_ok_iff]
  unfold Config.ofTexts
  cases readChainId chain with
  | error e => simp
  | ok id =>
      cases readWindow window with
      | error e => simp
      | ok seconds => simp [eq_comm]

/-- What a reviewer takes for a chain and for a configuration. Of the texts of
a chain that is not zero are the two it is written as; and "0x" with eight
digits is read as the four bytes that it is the hexadecimal text of. -/
theorem config_texts_exact :
    (∀ text id, readChainId text = .ok id
        ↔ ∃ core n, Trimmed text.toList core ∧ ChainNumeral core n
          ∧ 1 ≤ n ∧ n ≤ 0xffffffff ∧ id = Bytes.ofNat 4 n)
      ∧ (∀ id, id ≠ Bytes.zero 4 → readChainId id.toHex = .ok id
        ∧ readChainId (Nat.repr id.toNat) = .ok id)
      ∧ (∀ text digits, text.toList = '0' :: 'x' :: digits →
        digits.length = 8 → (∀ c ∈ digits, ∃ d, IsDigit 16 c d) →
        ∃ id, Bytes.ofHex 4 text = .ok id ∧ readChainId text
          = if id = Bytes.zero 4 then .error .zeroChainId else .ok id)
      ∧ ∀ chain window name config,
        Config.ofTexts chain window name = .ok config
          ↔ ∃ id seconds, readChainId chain = .ok id
            ∧ GivesWindow window seconds ∧ config = ⟨id, seconds, name⟩ :=
  ⟨fun _ _ => readChainId_eq_ok_iff,
    fun _ nonzero => ⟨readChainId_toHex nonzero, readChainId_repr nonzero⟩,
    fun _ _ => ofHex_and_readChainId, fun _ _ _ _ => Config.ofTexts_eq_ok_iff⟩

/-- One chain by four of its names. -/
example : ["0x00000038", "56", "  +0056\n", "0x+0000000000038"].map
    (fun text => (readChainId text).toOption)
      = List.replicate 4 (some (Bytes.ofNat 4 56)) := by
  decide

end Reviewer

end TokenBridge
