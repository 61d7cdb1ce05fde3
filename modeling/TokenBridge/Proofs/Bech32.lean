/-
What a bech32 text says, and that it says it in one way.

A text that is read gives back a payload only. Here is the way back: the
payload, the readable part and the variant of the format spell the text,
down to the last character of the checksum (`spell`). Two steps carry this.
The groups of twenty bytes are the one list of groups from which these bytes
are read. And there is one checksum for each variant, and it is good: six
more groups leave room in the remainder for all their bits, so that the
first of them never gets as far as the feedback, and the remainder shows all
six as they are.
-/
import Mathlib.Algebra.Group.Nat.Defs
import Mathlib.Data.List.Basic
import Mathlib.Data.List.Induction
import TokenBridge.Account

namespace TokenBridge.Bech32

-- ============================================================ bits and numbers

/-- The last bit of a number, after those of its half. -/
theorem bits_succ (width n : Nat) :
    bits (width + 1) n = bits width (n / 2) ++ [n.testBit 0] := by
  have hhalf : ∀ i ∈ List.range width, n.testBit (width + 1 - 1 - i)
      = (n / 2).testBit (width - 1 - i) := by
    intro i hi
    have hlt := List.mem_range.mp hi
    have hshift : width + 1 - 1 - i = width - 1 - i + 1 := by omega
    rw [hshift, Nat.testBit_succ]
  unfold bits
  rw [List.range_succ, List.map_append, List.map_congr_left hhalf,
    List.map_singleton]
  have hlast : width + 1 - 1 - width = 0 := by omega
  rw [hlast]

theorem length_bits (width n : Nat) : (bits width n).length = width := by
  unfold bits
  rw [List.length_map, List.length_range]

/-- Numbers in bits of one width, laid end to end. -/
theorem length_flatMap_bits {α : Type} (width : Nat) (f : α → Nat)
    (l : List α) : (l.flatMap fun a => bits width (f a)).length
      = l.length * width := by
  simp only [List.length_flatMap, length_bits, List.map_const',
    List.sum_replicate_nat]

/-- One more bit at the low end doubles the number and adds the bit. -/
theorem ofBits_append (bs : List Bool) (b : Bool) :
    ofBits (bs ++ [b]) = 2 * ofBits bs + b.toNat := by
  unfold ofBits
  rw [List.foldl_append]
  rfl

/-- Bits denote the number whose bits they are. -/
theorem ofBits_bits {width n : Nat} (h : n < 2 ^ width) :
    ofBits (bits width n) = n := by
  induction width generalizing n with
  | zero =>
      have hzero : n = 0 := by omega
      rw [hzero]
      rfl
  | succ width ih =>
      have hhalf : n / 2 < 2 ^ width := by
        rw [Nat.pow_succ] at h
        omega
      -- the last bit is the parity, and the others are the half
      rw [bits_succ, ofBits_append, ih hhalf, Nat.testBit_zero]
      by_cases hodd : n % 2 = 1
      · rw [decide_eq_true hodd, Bool.toNat_true]
        omega
      · rw [decide_eq_false hodd, Bool.toNat_false]
        omega

/-- So many bits spell a number below that power of two. -/
theorem ofBits_lt (bs : List Bool) : ofBits bs < 2 ^ bs.length := by
  induction bs using List.reverseRecOn with
  | nil => exact Nat.one_pos
  | append_singleton bs b ih =>
      have hbit := b.toNat_lt
      rw [ofBits_append, List.length_append, List.length_singleton,
        Nat.pow_succ]
      omega

/-- A number that bits denote has these bits. -/
theorem bits_ofBits (bs : List Bool) : bits bs.length (ofBits bs) = bs := by
  induction bs using List.reverseRecOn with
  | nil => rfl
  | append_singleton bs b ih =>
      have hbit := b.toNat_lt
      have hhalf : (2 * ofBits bs + b.toNat) / 2 = ofBits bs := by omega
      have hlast : (2 * ofBits bs + b.toNat) % 2 = b.toNat := by omega
      rw [List.length_append, List.length_singleton, ofBits_append, bits_succ,
        hhalf, ih, Nat.testBit_zero, hlast]
      cases b with
      | true => rfl
      | false => rfl

-- ==================================================================== the runs

/-- Numbers that are written one after the other are read one by one. -/
theorem runs_flatMap_bits {size : Nat} {ns : List Nat}
    (h : ∀ n ∈ ns, n < 2 ^ size) :
    runs size ns.length (ns.flatMap (bits size)) = ns := by
  induction ns with
  | nil => rfl
  | cons n rest ih =>
      have hfirst : n < 2 ^ size := h n List.mem_cons_self
      have hrest := ih fun m hm => h m (List.mem_cons_of_mem n hm)
      rw [List.length_cons, List.flatMap_cons, runs,
        List.take_left' (length_bits size n),
        List.drop_left' (length_bits size n), ofBits_bits hfirst, hrest]

/-- Bits that make whole runs are those of the numbers that are read. -/
theorem flatMap_bits_runs {size count : Nat} {bs : List Bool}
    (h : bs.length = count * size) :
    (runs size count bs).flatMap (bits size) = bs := by
  induction count generalizing bs with
  | zero =>
      rw [Nat.zero_mul] at h
      rw [List.eq_nil_of_length_eq_zero h]
      rfl
  | succ count ih =>
      -- the first run is cut off, and the rest has the length of one run less
      rw [Nat.succ_mul] at h
      have htake : (bs.take size).length = size := by
        rw [List.length_take]
        omega
      have hdrop : (bs.drop size).length = count * size := by
        rw [List.length_drop]
        omega
      have hfirst := bits_ofBits (bs.take size)
      rw [htake] at hfirst
      rw [runs, List.flatMap_cons, ih hdrop, hfirst, List.take_append_drop]

theorem length_runs (size count : Nat) (bs : List Bool) :
    (runs size count bs).length = count := by
  induction count generalizing bs with
  | zero => rfl
  | succ count ih => rw [runs, List.length_cons, ih]

/-- A run of so many bits is a number below that power of two. -/
theorem lt_of_mem_runs {size count n : Nat} {bs : List Bool}
    (h : n ∈ runs size count bs) : n < 2 ^ size := by
  induction count generalizing bs with
  | zero => cases h
  | succ count ih =>
      rw [runs] at h
      rcases List.mem_cons.mp h with rfl | h
      · have hlength : (bs.take size).length ≤ size := List.length_take_le _ _
        exact Nat.lt_of_lt_of_le (ofBits_lt _)
          (Nat.pow_le_pow_right (by decide) hlength)
      · exact ih h

-- ============================================================ groups and bytes

/-- The bits of groups, one group after the other. -/
def groupBits (groups : List Group) : List Bool :=
  groups.flatMap fun g => bits 5 g.toNat

theorem length_groupBits (groups : List Group) :
    (groupBits groups).length = groups.length * 5 :=
  length_flatMap_bits 5 BitVec.toNat groups

/-- A group survives the way through its number. -/
theorem map_ofNat_toNat (groups : List Group) :
    (groups.map BitVec.toNat).map (BitVec.ofNat 5) = groups := by
  induction groups with
  | nil => rfl
  | cons g rest ih =>
      rw [List.map_cons, List.map_cons, ih, BitVec.ofNat_toNat,
        BitVec.setWidth_eq]

/-- Groups are read from their bits. -/
theorem runs_groupBits (groups : List Group) :
    (runs 5 groups.length (groupBits groups)).map (BitVec.ofNat 5)
      = groups := by
  have hbits : groupBits groups
      = (groups.map BitVec.toNat).flatMap (bits 5) := by
    rw [List.flatMap_map]
    rfl
  have hsmall : ∀ n ∈ groups.map BitVec.toNat, n < 2 ^ 5 := by
    intro n hn
    obtain ⟨g, -, rfl⟩ := List.mem_map.mp hn
    exact g.isLt
  have hruns := runs_flatMap_bits hsmall
  rw [List.length_map] at hruns
  rw [hbits, hruns, map_ofNat_toNat]

/-- Bytes that are read from bits have these bits. -/
theorem byteBits_of_runs {count : Nat} {bs : List Bool}
    (h : bs.length = count * 8) :
    ((runs 8 count bs).map UInt8.ofNat).flatMap (fun b => bits 8 b.toNat)
      = bs := by
  have hbyte : ∀ n ∈ runs 8 count bs,
      bits 8 (UInt8.ofNat n).toNat = bits 8 n := by
    intro n hn
    have hlt : n < 2 ^ 8 := lt_of_mem_runs hn
    rw [UInt8.toNat_ofNat', Nat.mod_eq_of_lt hlt]
  rw [List.flatMap_map, List.flatMap_def, List.map_congr_left hbyte,
    ← List.flatMap_def]
  exact flatMap_bits_runs h

/-- Bytes and what is left over make up all the bits that were read. -/
theorem bytesOf_eq_ok {groups : List Group} {bytes : List UInt8}
    (h : bytesOf groups = .ok bytes) :
    bytes = (runs 8 ((groupBits groups).length / 8) (groupBits groups)).map
        UInt8.ofNat
      ∧ (groupBits groups).length % 8 < 5 := by
  have hsame : (groups.flatMap fun g => bits 5 g.toNat) = groupBits groups :=
    rfl
  simp only [bytesOf, hsame] at h
  split at h
  case isTrue => cases h
  case isFalse hrest =>
    cases h
    have hleft := Nat.lt_of_not_le fun hlong => hrest (.inl hlong)
    rw [List.length_drop] at hleft
    refine ⟨rfl, ?_⟩
    omega

/-- Twenty bytes are read from their own groups only. -/
theorem eq_groupsOf_of_bytesOf {groups : List Group} {bytes : List UInt8}
    (h : bytesOf groups = .ok bytes) (twenty : bytes.length = 20) :
    groups = groupsOf bytes := by
  obtain ⟨hbytes, hleft⟩ := bytesOf_eq_ok h
  have hlength := length_groupBits groups
  -- five bits a group against eight a byte, so twenty bytes leave no bit over
  have hcount : (groupBits groups).length / 8 = 20 := by
    rw [hbytes, List.length_map, length_runs] at twenty
    exact twenty
  have hgroups : groups.length = 32 := by omega
  rw [hcount] at hbytes
  have hbits : bytes.flatMap (fun b => bits 8 b.toNat) = groupBits groups := by
    rw [hbytes]
    apply byteBits_of_runs
    omega
  simp only [groupsOf, hbits]
  rw [hlength, Nat.mul_div_cancel groups.length (by decide)]
  exact (runs_groupBits groups).symm

/-- The groups of twenty bytes hold the bits of these bytes. -/
theorem groupBits_groupsOf {bytes : List UInt8} (twenty : bytes.length = 20) :
    groupBits (groupsOf bytes) = bytes.flatMap fun b => bits 8 b.toNat := by
  have hlength : (bytes.flatMap fun b => bits 8 b.toNat).length = 32 * 5 := by
    rw [length_flatMap_bits, twenty]
  have hgroup : ∀ n ∈ runs 5 32 (bytes.flatMap fun b => bits 8 b.toNat),
      bits 5 (BitVec.ofNat 5 n).toNat = bits 5 n := by
    intro n hn
    rw [BitVec.toNat_ofNat, Nat.mod_eq_of_lt (lt_of_mem_runs hn)]
  simp only [groupBits, groupsOf, hlength]
  rw [Nat.mul_div_cancel 32 (by decide), List.flatMap_map, List.flatMap_def,
    List.map_congr_left hgroup, ← List.flatMap_def]
  exact flatMap_bits_runs hlength

/-- Twenty bytes make thirty-two groups, with no bits left over. -/
theorem length_groupsOf {bytes : List UInt8} (twenty : bytes.length = 20) :
    (groupsOf bytes).length = 32 := by
  unfold groupsOf
  rw [List.length_map, length_runs, length_flatMap_bits, twenty]

/-- And twenty bytes are read from them, with no bit left over. -/
theorem bytesOf_groupsOf {bytes : List UInt8} (twenty : bytes.length = 20) :
    bytesOf (groupsOf bytes) = .ok bytes := by
  have hbits : ((groupsOf bytes).flatMap fun g => bits 5 g.toNat)
      = (bytes.map UInt8.toNat).flatMap (bits 8) := by
    rw [List.flatMap_map]
    exact groupBits_groupsOf twenty
  have hlength : ((bytes.map UInt8.toNat).flatMap (bits 8)).length
      = bytes.length * 8 := by
    rw [List.flatMap_map]
    exact length_flatMap_bits 8 UInt8.toNat bytes
  have hsmall : ∀ n ∈ bytes.map UInt8.toNat, n < 2 ^ 8 := by
    intro n hn
    obtain ⟨b, -, rfl⟩ := List.mem_map.mp hn
    exact b.toNat_lt
  have hbytes := runs_flatMap_bits hsmall
  rw [List.length_map] at hbytes
  simp only [bytesOf, hbits, hlength]
  rw [Nat.mul_div_cancel _ (by decide), ← hlength, List.drop_length, hbytes,
    List.map_map]
  -- all bits are in bytes, so no padding is left to be refused
  have hnothing : ¬(5 ≤ ([] : List Bool).length ∨ [].any id) := by decide
  rw [if_neg hnothing, List.map_congr_left (g := id) fun b _ => by simp,
    List.map_id]

-- ================================================================ the alphabet

/-- The group of a character is the one that stands for its lower-case
form. -/
theorem symbol_of_group? {c : Char} {g : Group} (h : group? c = some g) :
    symbol g = c.toLower := by
  unfold group? at h
  obtain ⟨i, hi, rfl⟩ := Option.map_eq_some_iff.mp h
  obtain ⟨hlt, hat, -⟩ := List.idxOf?_eq_some_iff.mp hi
  have hsize : alphabet.length = 32 := by decide
  have hnat : (BitVec.ofNat 5 i).toNat = i := by
    rw [BitVec.toNat_ofNat]
    omega
  unfold symbol
  rw [hnat, List.getD_eq_getElem?_getD, List.getElem?_eq_getElem hlt, hat]
  rfl

-- ================================================================ the checksum

/-- A remainder with one more group at its low end, and no feedback. -/
def shiftIn (d : BitVec 30) (g : Group) : BitVec 30 :=
  (d <<< 5) ^^^ g.setWidth 30

/-- As long as nothing falls out at the high end, this is arithmetic. -/
theorem toNat_shiftIn {d : BitVec 30} (g : Group) (h : d.toNat < 2 ^ 25) :
    (shiftIn d g).toNat = d.toNat * 32 + g.toNat := by
  have hg : g.toNat < 32 := g.isLt
  have hvalue : (shiftIn d g).toNat = d.toNat * 2 ^ 5 ^^^ g.toNat := by
    unfold shiftIn
    rw [BitVec.toNat_xor, BitVec.toNat_shiftLeft, BitVec.toNat_setWidth,
      Nat.shiftLeft_eq, Nat.mod_eq_of_lt (by omega),
      Nat.mod_eq_of_lt (by omega)]
  have hhigh : (d.toNat * 2 ^ 5 ^^^ g.toNat) / 2 ^ 5 = d.toNat := by
    rw [Nat.xor_div_two_pow, Nat.mul_div_cancel _ (by decide),
      Nat.div_eq_of_lt hg, Nat.xor_zero]
  have hlow : (d.toNat * 2 ^ 5 ^^^ g.toNat) % 2 ^ 5 = g.toNat := by
    rw [Nat.xor_mod_two_pow, Nat.mul_mod_left, Nat.mod_eq_of_lt hg,
      Nat.zero_xor]
  omega

/-- The feedback looks at the high bits only. -/
theorem feedback_xor {x d : BitVec 30} (h : d.toNat < 2 ^ 25) :
    feedback (x ^^^ d) = feedback x := by
  have hbit : ∀ i ∈ List.range 5,
      (x ^^^ d).getLsbD (25 + i) = x.getLsbD (25 + i) := by
    intro i _
    have hhigh : d.toNat < 2 ^ (25 + i) :=
      Nat.lt_of_lt_of_le h (Nat.pow_le_pow_right (by decide) (by omega))
    rw [BitVec.getLsbD_xor, ← BitVec.testBit_toNat d,
      Nat.testBit_lt_two_pow hhigh, Bool.xor_false]
  unfold feedback
  exact List.foldl_ext _ _ _ fun sum i hi => by rw [hbit i hi]

/-- So it does not see what has been shifted in of late. -/
theorem absorb_xor {x d : BitVec 30} (g : Group) (h : d.toNat < 2 ^ 25) :
    absorb (x ^^^ d) g = absorb x 0#5 ^^^ shiftIn d g := by
  have hzero : (0#5).setWidth 30 = 0#30 := rfl
  unfold absorb shiftIn
  rw [feedback_xor h, BitVec.shiftLeft_xor_distrib, hzero, BitVec.xor_zero]
  ac_rfl

/-- Up to five groups leave the highest five bits free. -/
theorem lt_of_room {n k : Nat} (h : n < 2 ^ (5 * k)) (room : k ≤ 5) :
    n < 2 ^ 25 :=
  Nat.lt_of_lt_of_le h (Nat.pow_le_pow_right (by decide) (by omega))

/-- Shifting one more group in, with room for it, loses no bits. -/
theorem shiftIn_lt {d : BitVec 30} {k : Nat} (c : Group)
    (h : d.toNat < 2 ^ (5 * k)) (room : k ≤ 5) :
    (shiftIn d c).toNat < 2 ^ (5 * (k + 1)) := by
  have hc : c.toNat < 32 := c.isLt
  have hpow : 2 ^ (5 * (k + 1)) = 2 ^ (5 * k) * 32 := by
    rw [Nat.mul_succ, Nat.pow_add]
  rw [toNat_shiftIn c (lt_of_room h room), hpow]
  omega

/-- Up to six groups are shifted in beside what zeros would have made. -/
theorem foldl_absorb_xor {cs : List Group} {x d : BitVec 30} {k : Nat}
    (h : d.toNat < 2 ^ (5 * k)) (room : k + cs.length ≤ 6) :
    cs.foldl absorb (x ^^^ d)
      = (List.replicate cs.length 0#5).foldl absorb x
        ^^^ cs.foldl shiftIn d := by
  induction cs generalizing x d k with
  | nil => rfl
  | cons c rest ih =>
      rw [List.length_cons] at room
      have hstep := absorb_xor (x := x) c (lt_of_room h (by omega))
      rw [List.foldl_cons, hstep, ih (shiftIn_lt c h (by omega)) (by omega),
        List.length_cons, List.replicate_succ, List.foldl_cons,
        List.foldl_cons]

/-- What is shifted in is a number in base thirty-two. -/
theorem toNat_foldl_shiftIn {cs : List Group} {d : BitVec 30} {k : Nat}
    (h : d.toNat < 2 ^ (5 * k)) (room : k + cs.length ≤ 6) :
    (cs.foldl shiftIn d).toNat
      = cs.foldl (fun n c => n * 32 + c.toNat) d.toNat := by
  induction cs generalizing d k with
  | nil => rfl
  | cons c rest ih =>
      rw [List.length_cons] at room
      have hstep := toNat_shiftIn c (lt_of_room h (by omega))
      rw [List.foldl_cons, ih (shiftIn_lt c h (by omega)) (by omega), hstep]
      rfl

/-- All of six groups can be read again. -/
theorem groups_of_shiftIn {cs : List Group} (six : cs.length = 6) :
    (List.range 6).map (fun i =>
      (cs.foldl shiftIn 0#30 >>> (5 * (5 - i))).setWidth 5) = cs := by
  match cs, six with
  | [c₀, c₁, c₂, c₃, c₄, c₅], _ =>
      have hvalue : ([c₀, c₁, c₂, c₃, c₄, c₅].foldl shiftIn 0#30).toNat = _ :=
        toNat_foldl_shiftIn (k := 0) (by decide) (Nat.le_refl 6)
      -- six groups fill thirty bits; each is read back as a digit of base 32
      generalize [c₀, c₁, c₂, c₃, c₄, c₅].foldl shiftIn 0#30 = d at hvalue ⊢
      have hread : ∀ {i : Nat} {c : Group}, d.toNat / 2 ^ i % 32 = c.toNat →
          (d >>> i).setWidth 5 = c := by
        intro i c hi
        apply BitVec.eq_of_toNat_eq
        rw [BitVec.toNat_setWidth, BitVec.toNat_ushiftRight,
          Nat.shiftRight_eq_div_pow]
        exact hi
      have h₀ : c₀.toNat < 32 := c₀.isLt
      have h₁ : c₁.toNat < 32 := c₁.isLt
      have h₂ : c₂.toNat < 32 := c₂.isLt
      have h₃ : c₃.toNat < 32 := c₃.isLt
      have h₄ : c₄.toNat < 32 := c₄.isLt
      have h₅ : c₅.toNat < 32 := c₅.isLt
      simp only [List.foldl_cons, List.foldl_nil, BitVec.toNat_zero] at hvalue
      show [(d >>> 25).setWidth 5, (d >>> 20).setWidth 5,
        (d >>> 15).setWidth 5, (d >>> 10).setWidth 5, (d >>> 5).setWidth 5,
        (d >>> 0).setWidth 5] = [c₀, c₁, c₂, c₃, c₄, c₅]
      rw [@hread 25 c₀ (by omega), @hread 20 c₁ (by omega),
        @hread 15 c₂ (by omega), @hread 10 c₃ (by omega),
        @hread 5 c₄ (by omega), @hread 0 c₅ (by omega)]

/-- A remainder is made up of the six groups it is cut into. -/
theorem foldl_shiftIn_groups (d : BitVec 30) :
    ((List.range 6).map fun i => (d >>> (5 * (5 - i))).setWidth 5).foldl
      shiftIn 0#30 = d := by
  have hsix : ((List.range 6).map fun i =>
      (d >>> (5 * (5 - i))).setWidth 5).length = 6 := by
    rw [List.length_map, List.length_range]
  have hvalue := toNat_foldl_shiftIn (k := 0) (d := 0#30) (by decide)
    (Nat.le_of_eq ((Nat.zero_add _).trans hsix))
  have hcut : ∀ i, ((d >>> i).setWidth 5).toNat = d.toNat / 2 ^ i % 32 := by
    intro i
    rw [BitVec.toNat_setWidth, BitVec.toNat_ushiftRight,
      Nat.shiftRight_eq_div_pow]
  have hrange : List.range 6 = [0, 1, 2, 3, 4, 5] := rfl
  have hlt := d.isLt
  -- the same six digits, put together again
  apply BitVec.eq_of_toNat_eq
  rw [hvalue]
  simp only [hrange, List.map_cons, List.map_nil, List.foldl_cons,
    List.foldl_nil, hcut, BitVec.toNat_zero]
  omega

theorem length_checksum (target : BitVec 30) (readable : List UInt8)
    (payload : List Group) : (checksum target readable payload).length = 6 := by
  unfold checksum
  rw [List.length_map, List.length_range]

/-- Six groups more are absorbed as zeros would be, beside the number that
they make up. -/
theorem remainder_append_six {groups cs : List Group} (six : cs.length = 6) :
    remainder (groups ++ cs)
      = remainder (groups ++ List.replicate 6 0#5) ^^^ cs.foldl shiftIn 0#30 := by
  have hxor : cs.foldl absorb (_ ^^^ 0#30) = _ := foldl_absorb_xor (k := 0)
    (x := remainder groups) (by decide) (by omega)
  rw [BitVec.xor_zero, six] at hxor
  unfold remainder at hxor ⊢
  rw [List.foldl_append, List.foldl_append, hxor]

/-- The checksum brings the remainder to its constant. -/
theorem remainder_checksum (target : BitVec 30) (readable : List UInt8)
    (payload : List Group) :
    remainder (expand readable ++ (payload ++ checksum target readable payload))
      = target := by
  rw [← List.append_assoc,
    remainder_append_six (length_checksum target readable payload)]
  unfold checksum
  rw [foldl_shiftIn_groups, ← BitVec.xor_assoc, BitVec.xor_self,
    BitVec.zero_xor]

/-- The checksum is the only one that brings the remainder to its constant. -/
theorem eq_checksum {target : BitVec 30} {readable : List UInt8}
    {payload cs : List Group} (six : cs.length = 6)
    (h : remainder (expand readable ++ (payload ++ cs)) = target) :
    cs = checksum target readable payload := by
  rw [← List.append_assoc, remainder_append_six six] at h
  have hopen : remainder (expand readable ++ payload
      ++ List.replicate 6 0#5) ^^^ target = cs.foldl shiftIn 0#30 := by
    rw [← h, ← BitVec.xor_assoc, BitVec.xor_self, BitVec.zero_xor]
  unfold checksum
  rw [hopen]
  exact (groups_of_shiftIn six).symm

-- ================================================================== reading

/-- A text that splits at a separator is the two parts around it. -/
theorem splitAtLast_eq_some {separator : Char} {cs before after : List Char}
    (h : splitAtLast separator cs = some (before, after)) :
    cs = before ++ separator :: after := by
  induction cs generalizing before with
  | nil => cases h
  | cons c rest ih =>
      unfold splitAtLast at h
      split at h
      -- the separator stands in the rest, or else this is the last one
      next before' after' hrest =>
        cases h
        rw [ih hrest]
        rfl
      next =>
        split at h
        case isTrue hc =>
          cases h
          rw [hc]
          rfl
        case isFalse => cases h

/-- Data characters are the symbols of their groups, in either case. -/
theorem map_symbol_of_readGroups {seen : Option LetterCase} {cs : List Char}
    {groups : List Group} (h : readGroups seen cs = .ok groups) :
    groups.map symbol = cs.map Char.toLower := by
  induction cs generalizing seen groups with
  | nil =>
      cases h
      rfl
  | cons c rest ih =>
      unfold readGroups at h
      split at h
      case isTrue => cases h
      case isFalse =>
        split at h
        next => cases h
        next seen' hcase =>
          split at h
          next => cases h
          next g hg =>
            split at h
            next groups' hrest =>
              -- the groups of the rest are read in the case that this one has
              -- left
              cases h
              rw [List.map_cons, List.map_cons, symbol_of_group? hg, ih hrest]
            next => cases h

/-- What a text that is read tells, link by link. -/
theorem decode_eq_ok {text : String} {payload : List Group}
    (h : decode text = .ok payload) :
    ∃ readable data seen groups,
      splitAtLast '1' text.toList = some (readable, data)
        ∧ checkReadable (utf8 (String.ofList readable)) = .ok seen
        ∧ readGroups seen data = .ok groups
        ∧ 6 ≤ groups.length
        ∧ remainder (expand (lowerBytes readable) ++ groups) ∈ goodRemainders
        ∧ payload = groups.take (groups.length - 6) := by
  unfold decode at h
  split at h
  next => cases h
  next readable data hsplit =>
    cases hreadable : checkReadable (utf8 (String.ofList readable)) with
    | error e =>
        rw [hreadable] at h
        cases h
    | ok seen =>
        rw [hreadable] at h
        change readGroups seen data >>= _ = _ at h
        cases hgroups : readGroups seen data with
        | error e =>
            rw [hgroups] at h
            cases h
        | ok groups =>
            rw [hgroups] at h
            change (if groups.length < 6 then _ else if _ then _ else _) = _
              at h
            -- long enough for a checksum, and the checksum is good
            split at h
            case isTrue => cases h
            case isFalse hlong =>
              split at h
              case isFalse => cases h
              case isTrue hgood =>
                cases h
                exact ⟨readable, data, seen, groups, hsplit, hreadable, hgroups,
                  Nat.le_of_not_lt hlong, hgood, rfl⟩

/-- The text of a payload under a readable part, in the variant of the
format that ends in a remainder. -/
def spell (target : BitVec 30) (readable : List Char) (payload : List Group) :
    List Char :=
  readable.map Char.toLower ++ '1'
    :: (payload ++ checksum target (lowerBytes readable) payload).map symbol

/-- Characters before and after the separator are, but for their case, what
the payload spells, once their checksum is good. -/
theorem spell_of_groups {chars readable data : List Char}
    {seen : Option LetterCase} {groups : List Group}
    (split : chars = readable ++ '1' :: data)
    (read : readGroups seen data = .ok groups) (long : 6 ≤ groups.length) :
    chars.map Char.toLower
      = spell (remainder (expand (lowerBytes readable) ++ groups)) readable
        (groups.take (groups.length - 6)) := by
  have hsix : (groups.drop (groups.length - 6)).length = 6 := by
    rw [List.length_drop]
    omega
  have hchecksum : groups.drop (groups.length - 6)
      = checksum (remainder (expand (lowerBytes readable) ++ groups))
        (lowerBytes readable) (groups.take (groups.length - 6)) := by
    apply eq_checksum hsix
    rw [List.take_append_drop]
  unfold spell
  -- what is cut off at the end is the checksum of what stands before it
  rw [← hchecksum, List.take_append_drop, map_symbol_of_readGroups read, split,
    List.map_append, List.map_cons]
  rfl

/-- A text that is read is the one that its payload spells, but for its
case. -/
theorem spell_of_decode {text : String} {payload : List Group}
    (h : decode text = .ok payload) :
    ∃ readable, ∃ target ∈ goodRemainders,
      text.toList.map Char.toLower = spell target readable payload := by
  obtain ⟨readable, data, seen, groups, hsplit, -, hgroups, hlong, hgood,
    hpayload⟩ := decode_eq_ok h
  refine ⟨readable, _, hgood, ?_⟩
  rw [hpayload]
  exact spell_of_groups (splitAtLast_eq_some hsplit) hgroups hlong

end TokenBridge.Bech32

namespace TokenBridge

-- ================================================================= the accounts

/-- The lower-case text of an address under a readable part, in a variant of
the format. -/
def Account.spell (target : BitVec 30) (readable : List Char) (raw : Bytes 20) :
    String :=
  String.ofList (Bech32.spell target readable (Bech32.groupsOf raw.toList))

/-- An address is read when its text has the groups of its bytes. -/
theorem Account.readBech32Address_eq_ok_iff {text : String} {raw : Bytes 20} :
    readBech32Address text = .ok raw
      ↔ Bech32.decode text = .ok (Bech32.groupsOf raw.toList) := by
  constructor
  · intro h
    unfold readBech32Address at h
    split at h
    next => cases h
    next groups hgroups =>
      split at h
      next => cases h
      next bytes hbytes =>
        split at h
        next => cases h
        next raw' hraw =>
          cases h
          -- twenty bytes can only come from their own groups
          have hlist : bytes = raw.toList := Bytes.ofList?_eq_some_iff.mp hraw
          rw [hlist] at hbytes
          rw [hgroups,
            ← Bech32.eq_groupsOf_of_bytesOf hbytes raw.length_toList]
  · intro h
    unfold readBech32Address
    simp only [h, Bech32.bytesOf_groupsOf raw.length_toList,
      Bytes.ofList?_toList]

/-- An address in lower case that is read is spelled from its own bytes. -/
theorem Account.spell_of_readBech32Address {text : String} {raw : Bytes 20}
    (h : readBech32Address text = .ok raw)
    (lower : text.toList.map Char.toLower = text.toList) :
    ∃ readable, ∃ target ∈ Bech32.goodRemainders,
      text = spell target readable raw := by
  obtain ⟨readable, target, htarget, htext⟩ :=
    Bech32.spell_of_decode (readBech32Address_eq_ok_iff.mp h)
  refine ⟨readable, target, htarget, ?_⟩
  unfold spell
  rw [← htext, lower, String.ofList_toList]

end TokenBridge
