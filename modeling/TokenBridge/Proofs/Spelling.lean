/-
Which texts are bech32 addresses, and of which twenty bytes.

A reader goes through a text from left to right and keeps the letter case it
has seen. What it accepts in the end has nothing to do with that order: there
is one case that no letter of the text is against (`OneCase`), and the text
in lower case is a readable part, the separator, and the symbols of a payload
with its checksum (`Readable.spell`). The digit 1 is no symbol, so the last
one is the separator even where the readable part has others.

Writing does the same from the other end, whatever the case of the readable
part it is given.
-/
import TokenBridge.Proofs.Bech32
import TokenBridge.Proofs.Letters

namespace TokenBridge

-- ================================================= characters in lower case

/-- A digit has no case. -/
theorem eq_one_of_toLower {c : Char} (h : c.toLower = '1') : c = '1' := by
  apply Char.toNat_inj.mp
  have hnat : c.toLower.toNat = 49 := congrArg Char.toNat h
  rw [toNat_toLower] at hnat
  split at hnat
  case isTrue hc =>
    have hrange := isUpper_iff.mp hc
    omega
  case isFalse => exact hnat

/-- Visible ASCII stays so, and comes from nothing else. -/
theorem visible_toLower_iff {c : Char} :
    (33 ≤ c.toLower.toNat ∧ c.toLower.toNat ≤ 126)
      ↔ 33 ≤ c.toNat ∧ c.toNat ≤ 126 := by
  rw [toNat_toLower]
  split
  case isTrue hc =>
    have hrange := isUpper_iff.mp hc
    omega
  case isFalse => exact Iff.rfl

-- ============================================================ characters as bytes

theorem toNat_byte {c : Char} (h : c.toNat ≤ 127) :
    (UInt8.ofNat c.toNat).toNat = c.toNat := by
  rw [UInt8.toNat_ofNat']
  omega

theorem utf8EncodeChar_eq {c : Char} (h : c.toNat ≤ 127) :
    String.utf8EncodeChar c = [UInt8.ofNat c.toNat] := by
  unfold String.utf8EncodeChar
  exact if_pos h

/-- The first byte of several is not ASCII. -/
theorem toNat_le_of_utf8EncodeChar {c : Char}
    (h : ∀ b ∈ String.utf8EncodeChar c, b ≤ 126) : c.toNat ≤ 127 := by
  apply Nat.le_of_not_lt
  intro hbig
  have hlead : ∀ {n : Nat}, 127 ≤ n → n < 256 → ∀ rest : List UInt8,
      String.utf8EncodeChar c ≠ UInt8.ofNat n :: rest := by
    intro n hn hsmall rest heq
    have hle := UInt8.le_iff_toNat_le.mp
      (h (UInt8.ofNat n) (heq ▸ List.mem_cons_self))
    rw [UInt8.toNat_ofNat', Nat.mod_eq_of_lt hsmall] at hle
    exact absurd (Nat.le_trans hn hle) (by decide)
  have hmany : ¬(c.val.toNat ≤ 127) := Nat.not_le_of_lt hbig
  -- two, three or four bytes, the first of them from 192 on
  by_cases htwo : c.val.toNat ≤ 2047
  · apply hlead (n := c.val.toNat / 64 % 32 + 192) (by omega) (by omega)
    unfold String.utf8EncodeChar
    exact (if_neg hmany).trans (if_pos htwo)
  · by_cases hthree : c.val.toNat ≤ 65535
    · apply hlead (n := c.val.toNat / 4096 % 16 + 224) (by omega) (by omega)
      unfold String.utf8EncodeChar
      exact (if_neg hmany).trans ((if_neg htwo).trans (if_pos hthree))
    · apply hlead (n := c.val.toNat / 262144 % 8 + 240) (by omega) (by omega)
      unfold String.utf8EncodeChar
      exact (if_neg hmany).trans ((if_neg htwo).trans (if_neg hthree))

/-- The bytes of a text are those of its characters. -/
theorem mem_utf8_iff {text : String} {b : UInt8} :
    b ∈ utf8 text ↔ ∃ c ∈ text.toList, b ∈ String.utf8EncodeChar c :=
  List.mem_flatMap

/-- The bytes of ASCII text are its characters. -/
theorem utf8_eq_map {text : String} (h : ∀ c ∈ text.toList, c.toNat ≤ 127) :
    utf8 text = text.toList.map fun c => UInt8.ofNat c.toNat := by
  unfold utf8
  rw [List.flatMap_def,
    List.map_congr_left fun c hc => utf8EncodeChar_eq (h c hc),
    ← List.flatMap_def, List.map_eq_flatMap]

namespace Bech32

-- =============================================================== one letter case

/-- A case found so far, or in a character, is not against a case. -/
def Fits (k : LetterCase) (found : Option LetterCase) : Prop :=
  ∀ other ∈ found, other = k

/-- No letter is against a case. -/
def OneCase (k : LetterCase) (cs : List Char) : Prop :=
  ∀ c ∈ cs, Fits k (letterCase? c)

/-- A text with letters of either case. -/
def Mixed (text : String) : Prop :=
  (∃ c ∈ text.toList, c.isUpper = true) ∧ ∃ c ∈ text.toList, c.isLower = true

theorem fits_none (k : LetterCase) : Fits k none := fun _ h => by cases h

theorem exists_fits (seen : Option LetterCase) : ∃ k, Fits k seen := by
  cases seen with
  | none => exact ⟨.lower, fits_none _⟩
  | some k => exact ⟨k, fun other h => (Option.some.inj h).symm⟩

/-- A character is let pass by the cases that it fits. -/
theorem noteCase_fits_iff {k : LetterCase} {seen : Option LetterCase}
    {c : Char} :
    (∃ seen', noteCase seen c = .ok seen' ∧ Fits k seen')
      ↔ Fits k seen ∧ Fits k (letterCase? c) := by
  unfold noteCase Fits
  cases seen with
  | none => simp
  | some seen =>
      cases letterCase? c with
      | none => cases seen <;> simp
      | some found => cases seen <;> cases found <;> cases k <;> simp

/-- What fits lower case is no upper-case letter. -/
theorem fits_lower_iff {c : Char} :
    Fits .lower (letterCase? c) ↔ c.isUpper = false := by
  unfold letterCase? Fits
  by_cases hl : c.isLower = true
  · have hrange := isLower_iff.mp hl
    have hu : ¬(c.isUpper = true) := fun h => by
      have hrange' := isUpper_iff.mp h
      omega
    simp [hl, hu]
  · simp [hl]

/-- What fits upper case is no lower-case letter. -/
theorem fits_upper_iff {c : Char} :
    Fits .upper (letterCase? c) ↔ c.isLower = false := by
  unfold letterCase? Fits
  by_cases hl : c.isLower = true
  · simp [hl]
  · simp [hl]

/-- What is not mixed is of one case. -/
theorem not_mixed_iff {text : String} :
    ¬Mixed text ↔ ∃ k, OneCase k text.toList := by
  constructor
  · intro h
    by_cases hupper : ∃ c ∈ text.toList, c.isUpper = true
    · refine ⟨.upper, fun c hc => fits_upper_iff.mpr ?_⟩
      exact Bool.eq_false_iff.mpr fun hl => h ⟨hupper, c, hc, hl⟩
    · refine ⟨.lower, fun c hc => fits_lower_iff.mpr ?_⟩
      exact Bool.eq_false_iff.mpr fun hu => hupper ⟨c, hc, hu⟩
  · intro ⟨k, hk⟩ ⟨⟨c, hc, hu⟩, d, hd, hl⟩
    cases k with
    | lower =>
        have hnot := fits_lower_iff.mp (hk c hc)
        rw [hu] at hnot
        cases hnot
    | upper =>
        have hnot := fits_upper_iff.mp (hk d hd)
        rw [hl] at hnot
        cases hnot

-- ============================================================= readable parts

/-- A readable part has 1 to 83 bytes, all of them visible ASCII. -/
structure IsReadable (text : String) : Prop where
  nonempty : utf8 text ≠ []
  length_le : (utf8 text).length ≤ 83
  visible : ∀ b ∈ utf8 text, 33 ≤ b ∧ b ≤ 126

/-- The same, said of the characters. -/
theorem isReadable_iff {text : String} :
    IsReadable text ↔ text.toList ≠ [] ∧ text.toList.length ≤ 83
      ∧ ∀ c ∈ text.toList, 33 ≤ c.toNat ∧ c.toNat ≤ 126 := by
  constructor
  · intro ⟨hnonempty, hlength, hvisible⟩
    have hascii : ∀ c ∈ text.toList, c.toNat ≤ 127 := fun c hc =>
      toNat_le_of_utf8EncodeChar fun b hb =>
        (hvisible b (mem_utf8_iff.mpr ⟨c, hc, hb⟩)).2
    rw [utf8_eq_map hascii] at hnonempty hlength hvisible
    rw [List.length_map] at hlength
    refine ⟨fun h => hnonempty (List.map_eq_nil_iff.mpr h), hlength,
      fun c hc => ?_⟩
    obtain ⟨hlow, hhigh⟩ := hvisible _ (List.mem_map_of_mem hc)
    rw [UInt8.le_iff_toNat_le, toNat_byte (hascii c hc)] at hlow hhigh
    exact ⟨hlow, hhigh⟩
  · intro ⟨hnonempty, hlength, hvisible⟩
    have hascii : ∀ c ∈ text.toList, c.toNat ≤ 127 := fun c hc =>
      Nat.le_succ_of_le (hvisible c hc).2
    have hbytes := utf8_eq_map hascii
    refine ⟨fun h => hnonempty ?_, ?_, ?_⟩
    · rw [hbytes] at h
      exact List.map_eq_nil_iff.mp h
    · rw [hbytes, List.length_map]
      exact hlength
    · intro b hb
      rw [hbytes] at hb
      obtain ⟨c, hc, rfl⟩ := List.mem_map.mp hb
      rw [UInt8.le_iff_toNat_le, UInt8.le_iff_toNat_le,
        toNat_byte (hascii c hc)]
      exact hvisible c hc

theorem IsReadable.ascii {text : String} (h : IsReadable text) :
    ∀ c ∈ text.toList, c.toNat ≤ 127 := fun c hc =>
  Nat.le_succ_of_le ((isReadable_iff.mp h).2.2 c hc).2

/-- The letter case does not matter to what a readable part may be. -/
theorem isReadable_lower_iff {cs : List Char} :
    IsReadable (String.ofList (cs.map Char.toLower))
      ↔ IsReadable (String.ofList cs) := by
  simp only [isReadable_iff, String.toList_ofList, List.length_map, ne_eq,
    List.map_eq_nil_iff, List.forall_mem_map, visible_toLower_iff]

/-- Visible is what is neither below nor above the visible characters. -/
theorem visible_iff {b : UInt8} : ¬(b < 33 ∨ 126 < b) ↔ 33 ≤ b ∧ b ≤ 126 := by
  rw [not_or, UInt8.not_lt, UInt8.not_lt]

/-- The bytes are checked one by one, but the case is one for all. -/
theorem checkBytes_fits_iff {k : LetterCase} {seen : Option LetterCase}
    {bs : List UInt8} :
    (∃ seen', checkBytes seen bs = .ok seen' ∧ Fits k seen')
      ↔ Fits k seen ∧ ∀ b ∈ bs, (33 ≤ b ∧ b ≤ 126)
        ∧ Fits k (letterCase? (Char.ofNat b.toNat)) := by
  induction bs generalizing seen with
  | nil =>
      constructor
      · intro ⟨seen', hseen, hfits⟩
        cases hseen
        exact ⟨hfits, fun b hb => by cases hb⟩
      · intro ⟨hfits, _⟩
        exact ⟨seen, rfl, hfits⟩
  | cons b rest ih =>
      -- the first byte sets or confirms the case that the rest is held to
      have hnote : (∃ mid, noteCase seen (Char.ofNat b.toNat) = .ok mid
          ∧ Fits k mid)
          ↔ Fits k seen ∧ Fits k (letterCase? (Char.ofNat b.toNat)) :=
        noteCase_fits_iff
      simp only [checkBytes]
      constructor
      · intro ⟨seen', hseen, hfits⟩
        split at hseen
        case isTrue => cases hseen
        case isFalse hb =>
          split at hseen
          next mid hmid =>
            obtain ⟨hk, hrest⟩ := ih.mp ⟨seen', hseen, hfits⟩
            obtain ⟨hfirst, hc⟩ := hnote.mp ⟨mid, hmid, hk⟩
            refine ⟨hfirst, fun b' hb' => ?_⟩
            rcases List.mem_cons.mp hb' with rfl | hb'
            · exact ⟨visible_iff.mp hb, hc⟩
            · exact hrest b' hb'
          next => cases hseen
      · intro ⟨hfits, hall⟩
        obtain ⟨hb, hc⟩ := hall b List.mem_cons_self
        obtain ⟨mid, hmid, hk⟩ := hnote.mpr ⟨hfits, hc⟩
        simp only [if_neg (visible_iff.mpr hb), hmid]
        exact ih.mpr ⟨hk, fun b' hb' => hall b' (List.mem_cons_of_mem b hb')⟩

/-- A readable part of one case passes the check, and no other does. -/
theorem checkReadable_fits_iff {k : LetterCase} {text : String} :
    (∃ seen, checkReadable (utf8 text) = .ok seen ∧ Fits k seen)
      ↔ IsReadable text ∧ OneCase k text.toList := by
  have hchar : ∀ c : Char, c.toNat ≤ 127 →
      Char.ofNat (UInt8.ofNat c.toNat).toNat = c := by
    intro c hc
    rw [toNat_byte hc, Char.ofNat_toNat]
  unfold checkReadable
  constructor
  · intro ⟨seen, hseen, hfits⟩
    split at hseen
    case isTrue => cases hseen
    case isFalse hlength =>
      rw [not_or, Nat.not_lt] at hlength
      obtain ⟨-, hbytes⟩ := checkBytes_fits_iff.mp ⟨seen, hseen, hfits⟩
      have hreadable : IsReadable text :=
        ⟨hlength.1, hlength.2, fun b hb => (hbytes b hb).1⟩
      refine ⟨hreadable, fun c hc => ?_⟩
      rw [utf8_eq_map hreadable.ascii] at hbytes
      have hcase := (hbytes _ (List.mem_map_of_mem hc)).2
      rw [hchar c (hreadable.ascii c hc)] at hcase
      exact hcase
  · intro ⟨hreadable, hcase⟩
    rw [if_neg (not_or.mpr
      ⟨hreadable.nonempty, Nat.not_lt.mpr hreadable.length_le⟩)]
    refine checkBytes_fits_iff.mpr ⟨fits_none k, fun b hb =>
      ⟨hreadable.visible b hb, ?_⟩⟩
    rw [utf8_eq_map hreadable.ascii] at hb
    obtain ⟨c, hc, rfl⟩ := List.mem_map.mp hb
    rw [hchar c (hreadable.ascii c hc)]
    exact hcase c hc

-- ============================================================= data characters

theorem group?_symbol (g : Group) : group? (symbol g) = some g := by
  decide +revert

theorem symbol_ascii (g : Group) : (symbol g).toNat < 128 := by
  decide +revert

theorem isUpper_symbol (g : Group) : (symbol g).isUpper = false := by
  decide +revert

theorem symbol_ne_one (g : Group) : symbol g ≠ '1' := by
  decide +revert

/-- A character that is a symbol but for its case has the group of it. -/
theorem group?_of_toLower {c : Char} {g : Group} (h : c.toLower = symbol g) :
    group? c = some g ∧ ¬(128 ≤ c.toNat) := by
  have hsame : group? c = group? (symbol g) := by
    unfold group?
    rw [h, ← h, toLower_of_not_isUpper (isUpper_toLower c)]
  have hnat : c.toNat ≤ c.toLower.toNat := by
    rw [toNat_toLower]
    split
    case isTrue => exact Nat.le_add_right _ _
    case isFalse => exact Nat.le_refl _
  have hascii := symbol_ascii g
  rw [← h] at hascii
  exact ⟨hsame.trans (group?_symbol g), by omega⟩

/-- There is no separator among data characters. -/
theorem one_not_mem_of_symbols {cs : List Char} {groups : List Group}
    (h : cs.map Char.toLower = groups.map symbol) : '1' ∉ cs := by
  intro hmem
  have hlower : '1' ∈ groups.map symbol := by
    rw [← h]
    exact List.mem_map.mpr ⟨'1', hmem, rfl⟩
  obtain ⟨g, -, hg⟩ := List.mem_map.mp hlower
  exact symbol_ne_one g hg

/-- The first character fits, and so do the rest. -/
theorem oneCase_cons_iff {k : LetterCase} {c : Char} {cs : List Char} :
    OneCase k (c :: cs) ↔ Fits k (letterCase? c) ∧ OneCase k cs :=
  List.forall_mem_cons

theorem oneCase_append_iff {k : LetterCase} {cs ds : List Char} :
    OneCase k (cs ++ ds) ↔ OneCase k cs ∧ OneCase k ds :=
  List.forall_mem_append

/-- Data characters are read when they are of one case, and symbols of groups
but for that. -/
theorem readGroups_eq_ok_iff {seen : Option LetterCase} {cs : List Char}
    {groups : List Group} :
    readGroups seen cs = .ok groups
      ↔ (∃ k, Fits k seen ∧ OneCase k cs)
        ∧ cs.map Char.toLower = groups.map symbol := by
  induction cs generalizing seen groups with
  | nil =>
      constructor
      · intro h
        cases h
        obtain ⟨k, hk⟩ := exists_fits seen
        exact ⟨⟨k, hk, fun c hc => by cases hc⟩, rfl⟩
      · intro h
        rw [List.map_eq_nil_iff.mp h.2.symm]
        rfl
  | cons c rest ih =>
      constructor
      -- the case that lets the rest pass has let the first character pass
      · intro h
        refine ⟨?_, (map_symbol_of_readGroups h).symm⟩
        unfold readGroups at h
        split at h
        case isTrue => cases h
        case isFalse =>
          split at h
          next => cases h
          next mid hmid =>
            split at h
            next => cases h
            next g hg =>
              split at h
              next groups' hrest =>
                obtain ⟨⟨k, hk, hcase⟩, -⟩ := ih.mp hrest
                obtain ⟨hfirst, hc⟩ := noteCase_fits_iff.mp ⟨mid, hmid, hk⟩
                exact ⟨k, hfirst, oneCase_cons_iff.mpr ⟨hc, hcase⟩⟩
              next => cases h
      · intro h
        obtain ⟨⟨k, hk, hcase⟩, hsymbols⟩ := h
        obtain ⟨hc, hrest⟩ := oneCase_cons_iff.mp hcase
        obtain ⟨mid, hmid, hk'⟩ := noteCase_fits_iff.mpr ⟨hk, hc⟩
        cases groups with
        | nil => cases hsymbols
        | cons g groups' =>
            obtain ⟨hsymbol, htail⟩ := List.cons.inj hsymbols
            obtain ⟨hgroup, hascii⟩ := group?_of_toLower hsymbol
            have hread := ih.mpr ⟨⟨k, hk', hrest⟩, htail⟩
            unfold readGroups
            simp only [if_neg hascii, hmid, hgroup, hread]

-- ================================================================= whole texts

/-- Without a separator there is nothing to split. -/
theorem splitAtLast_eq_none {separator : Char} {cs : List Char}
    (h : separator ∉ cs) : splitAtLast separator cs = none := by
  induction cs with
  | nil => rfl
  | cons c rest ih =>
      have hc : c ≠ separator := fun heq => h (heq ▸ List.mem_cons_self)
      have hrest := ih fun hmem => h (List.mem_cons_of_mem c hmem)
      simp only [splitAtLast, hrest, if_neg hc]

/-- What comes after the last separator has none. -/
theorem splitAtLast_append {separator : Char} {before after : List Char}
    (h : separator ∉ after) :
    splitAtLast separator (before ++ separator :: after)
      = some (before, after) := by
  induction before with
  | nil => simp only [List.nil_append, splitAtLast, splitAtLast_eq_none h, if_pos]
  | cons c rest ih => simp only [List.cons_append, splitAtLast, ih]

/-- A readable part in lower case. -/
structure Readable where
  text : String
  isReadable : IsReadable text
  lower : ∀ c ∈ text.toList, c.isUpper = false

/-- The text of a payload under a readable part, in the variant of the format
that ends in a remainder: the readable part, the separator, the symbols of
the payload and those of its checksum. -/
def Readable.spell (r : Readable) (target : BitVec 30) (payload : List Group) :
    List Char :=
  r.text.toList ++ '1'
    :: (payload ++ checksum target (utf8 r.text) payload).map symbol

/-- Characters that make up a readable part, but for their case. -/
def Readable.Of (r : Readable) (cs : List Char) : Prop :=
  cs.map Char.toLower = r.text.toList

/-- The checksum is taken of the readable part in lower case. -/
theorem lowerBytes_of {r : Readable} {cs : List Char} (h : r.Of cs) :
    lowerBytes cs = utf8 r.text := by
  rw [utf8_eq_map r.isReadable.ascii, ← h, List.map_map]
  rfl

/-- So a readable part in any case has one spelling. -/
theorem spell_of {r : Readable} {cs : List Char} (h : r.Of cs)
    (target : BitVec 30) (payload : List Group) :
    spell target cs payload = r.spell target payload := by
  unfold spell Readable.spell
  rw [h, lowerBytes_of h]

namespace Readable

/-- The readable part in upper case. -/
def upper (r : Readable) : String :=
  String.ofList (r.text.toList.map Char.toUpper)

variable (r : Readable)

/-- The text of a readable part is its own lower case. -/
theorem map_toLower : r.text.toList.map Char.toLower = r.text.toList := by
  rw [List.map_congr_left fun c hc => toLower_of_not_isUpper (r.lower c hc),
    List.map_id']

/-- It makes up its own readable part. -/
theorem of_text : r.Of r.text.toList := r.map_toLower

/-- So does its upper case. -/
theorem of_upper : r.Of r.upper.toList := by
  have hback : ∀ c ∈ r.text.toList,
      (Char.toLower ∘ Char.toUpper) c = id c := fun c hc =>
    toLower_toUpper (r.lower c hc)
  unfold Of upper
  rw [String.toList_ofList, List.map_map, List.map_congr_left hback,
    List.map_id]

/-- It is of one case, the lower. -/
theorem oneCase_text : OneCase .lower r.text.toList := fun c hc =>
  fits_lower_iff.mpr (r.lower c hc)

theorem oneCase_upper : OneCase .upper r.upper.toList := by
  intro c hc
  rw [upper, String.toList_ofList] at hc
  obtain ⟨d, -, rfl⟩ := List.mem_map.mp hc
  exact fits_upper_iff.mpr (isLower_toUpper d)

/-- A spelling is in lower case, as its readable part and its symbols are. -/
theorem lower_spell {target : BitVec 30} {payload : List Group} :
    ∀ c ∈ r.spell target payload, c.isUpper = false := by
  intro c hc
  rcases List.mem_append.mp hc with hc | hc
  · exact r.lower c hc
  · rcases List.mem_cons.mp hc with rfl | hc
    · decide
    · obtain ⟨g, -, rfl⟩ := List.mem_map.mp hc
      exact isUpper_symbol g

end Readable

/-- Characters are let pass as a readable part when they are one of one case. -/
theorem checkReadable_iff {k : LetterCase} {cs : List Char} :
    (∃ seen, checkReadable (utf8 (String.ofList cs)) = .ok seen ∧ Fits k seen)
      ↔ (∃ r : Readable, r.Of cs) ∧ OneCase k cs := by
  rw [checkReadable_fits_iff, String.toList_ofList]
  refine and_congr_left fun _ => ⟨fun h => ?_, fun ⟨r, hr⟩ => ?_⟩
  · refine ⟨⟨String.ofList (cs.map Char.toLower), isReadable_lower_iff.mpr h,
      fun c hc => ?_⟩, String.toList_ofList.symm⟩
    rw [String.toList_ofList] at hc
    obtain ⟨d, -, rfl⟩ := List.mem_map.mp hc
    exact isUpper_toLower d
  · apply isReadable_lower_iff.mp
    rw [hr, String.ofList_toList]
    exact r.isReadable

/-- The separator has no case, and only itself in lower case. -/
theorem parts_of_spell {r : Readable} {target : BitVec 30}
    {payload : List Group} {chars : List Char}
    (h : chars.map Char.toLower = r.spell target payload) :
    ∃ cs ds, chars = cs ++ '1' :: ds ∧ r.Of cs
      ∧ ds.map Char.toLower
        = (payload ++ checksum target (utf8 r.text) payload).map symbol := by
  obtain ⟨cs, rest, rfl, hcs, hrest⟩ := List.map_eq_append_iff.mp h
  obtain ⟨c, ds, rfl, hc, hds⟩ := List.map_eq_cons_iff.mp hrest
  rw [eq_one_of_toLower hc]
  exact ⟨cs, ds, rfl, hcs, hds⟩

/-- The texts that are read: not of mixed case, and spelled in lower case
from their payload. -/
theorem decode_eq_ok_iff {text : String} {payload : List Group} :
    decode text = .ok payload
      ↔ ¬Mixed text ∧ ∃ r : Readable, ∃ target ∈ goodRemainders,
        text.toList.map Char.toLower = r.spell target payload := by
  have hone : ∀ k, Fits k (letterCase? '1') := fits_none
  rw [not_mixed_iff]
  constructor
  · intro h
    obtain ⟨readable, data, seen, groups, hsplit, hcheck, hread, hlong, hgood,
      hpayload⟩ := decode_eq_ok h
    have htext := splitAtLast_eq_some hsplit
    obtain ⟨⟨k, hk, hdata⟩, -⟩ := readGroups_eq_ok_iff.mp hread
    obtain ⟨⟨r, hr⟩, hcase⟩ := checkReadable_iff.mp ⟨seen, hcheck, hk⟩
    refine ⟨⟨k, ?_⟩, r, _, hgood, ?_⟩
    · rw [htext]
      exact oneCase_append_iff.mpr
        ⟨hcase, oneCase_cons_iff.mpr ⟨hone k, hdata⟩⟩
    · rw [hpayload, ← spell_of hr]
      exact spell_of_groups htext hread hlong
  · intro ⟨⟨k, hk⟩, r, target, hgood, hspell⟩
    -- the same links as in `decode_eq_ok`, now met one by one
    obtain ⟨cs, ds, htext, hr, hds⟩ := parts_of_spell hspell
    rw [htext] at hk
    obtain ⟨hcs, hrest⟩ := oneCase_append_iff.mp hk
    obtain ⟨-, hdata⟩ := oneCase_cons_iff.mp hrest
    obtain ⟨seen, hcheck, hfits⟩ := checkReadable_iff.mpr ⟨⟨r, hr⟩, hcs⟩
    have hread := readGroups_eq_ok_iff.mpr ⟨⟨k, hfits, hdata⟩, hds⟩
    have hsplit : splitAtLast '1' text.toList = some (cs, ds) := by
      rw [htext]
      exact splitAtLast_append (one_not_mem_of_symbols hds)
    have hsix := length_checksum target (utf8 r.text) payload
    have hlong : ¬((payload ++ checksum target (utf8 r.text) payload).length
        < 6) := by
      rw [List.length_append]
      omega
    have hremainder : remainder (expand (lowerBytes cs)
        ++ (payload ++ checksum target (utf8 r.text) payload))
        ∈ goodRemainders := by
      rw [lowerBytes_of hr, remainder_checksum]
      exact hgood
    simp only [decode, hsplit, hcheck, hread, bind, Except.bind,
      if_neg hlong, if_pos hremainder]
    rw [List.length_append, hsix, Nat.add_sub_cancel, List.take_left]

/-- A readable part is written in lower case, whatever case it is given in. -/
theorem encode_of {r : Readable} {k : LetterCase} {readable : String}
    (part : r.Of readable.toList) (one : OneCase k readable.toList)
    (payload : List Group) :
    encode readable payload
      = .ok (String.ofList (r.spell 1#30 payload)) := by
  have hcheck := checkReadable_iff.mpr ⟨⟨r, part⟩, one⟩
  rw [String.ofList_toList] at hcheck
  obtain ⟨seen, hcheck, -⟩ := hcheck
  have hchars : readable.toList.map Char.toLower = r.text.toList := part
  simp only [encode, hcheck, hchars, lowerBytes_of r.of_text, bind, Except.bind]
  rfl

/-- A spelling is read. -/
theorem decode_spell (r : Readable) {target : BitVec 30}
    (good : target ∈ goodRemainders) (payload : List Group) :
    decode (String.ofList (r.spell target payload)) = .ok payload := by
  refine decode_eq_ok_iff.mpr ⟨not_mixed_iff.mpr ⟨.lower, ?_⟩, r, target, good,
    ?_⟩
  · rw [String.toList_ofList]
    exact fun c hc => fits_lower_iff.mpr (r.lower_spell c hc)
  · rw [String.toList_ofList, List.map_congr_left fun c hc =>
      toLower_of_not_isUpper (r.lower_spell c hc), List.map_id']

end Bech32

-- ================================================================= the accounts

namespace Account

open Bech32

/-- Bech32 addresses, read and written. A text is the address of twenty bytes
just when it is not of mixed case and is in lower case a readable part, the
separator, the symbols of their thirty-two groups, and those of one of the
two checksums. Under every readable part, in lower or in upper case, one and
the same text is written, which is read back; and so is that of an account of
a Cosmos chain with nothing in its reserved bytes. -/
theorem bech32_codec (raw : Bytes 20) :
    (groupsOf raw.toList).length = 32
      ∧ (∀ text, readBech32Address text = .ok raw
        ↔ ¬Mixed text ∧ ∃ r : Readable, ∃ target ∈ goodRemainders,
          text.toList.map Char.toLower = r.spell target (groupsOf raw.toList))
      ∧ ∀ r : Readable, ∃ text,
        text.toList = r.spell 1#30 (groupsOf raw.toList)
          ∧ writeBech32Address raw r.text = .ok text
          ∧ writeBech32Address raw r.upper = .ok text
          ∧ readBech32Address text = .ok raw
          ∧ toCosmosAddress ⟨cosmos, raw, Bytes.zero 8⟩ r.text = .ok text
          ∧ ofCosmosAddress text = .ok ⟨cosmos, raw, Bytes.zero 8⟩ := by
  have hgood : 1#30 ∈ goodRemainders := List.mem_cons_self
  refine ⟨length_groupsOf raw.length_toList, fun text => ?_, fun r => ?_⟩
  · rw [readBech32Address_eq_ok_iff, decode_eq_ok_iff]
  · have hread : readBech32Address (String.ofList
        (r.spell 1#30 (groupsOf raw.toList))) = .ok raw :=
      readBech32Address_eq_ok_iff.mpr (decode_spell r hgood _)
    have hwrite : writeBech32Address raw r.text
        = .ok (String.ofList (r.spell 1#30 (groupsOf raw.toList))) := by
      simp only [writeBech32Address, encode_of r.of_text r.oneCase_text]
    refine ⟨_, String.toList_ofList, hwrite, ?_, hread, ?_, ?_⟩
    · simp only [writeBech32Address, encode_of r.of_upper r.oneCase_upper]
    · exact hwrite
    · simp only [ofCosmosAddress, hread]
      rfl

/-- An address in upper case. -/
example : (readBech32Address
    "TERRA1X46RQAY4D3CSSQ8GXXVQZ8XT6NWLZ4TD20K38V").toOption.map Bytes.toHex
      = some "0x35743074956c710800e83198011ccbd4ddf1556d" := by
  decide +kernel

end Account

end TokenBridge
