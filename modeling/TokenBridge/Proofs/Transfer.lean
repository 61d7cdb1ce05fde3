/-
What is hashed names the transfer.

The buffer of a transfer is seven words one after the other, each of a size
of its own, so equal buffers have equal words; a word in turn gives back
the chain name, the account or the number it was made of. Nothing here is
about the hash itself: whether two buffers may share one is a question to
the hash alone.
-/
import Mathlib.Algebra.Group.Nat.Defs
import TokenBridge.Transfer

namespace TokenBridge

-- =============================================================== big-endian

/-- The last digit is worth itself, those before it move up one place. -/
theorem ofBigEndian_append (digits : List UInt8) (digit : UInt8) :
    ofBigEndian (digits ++ [digit])
      = ofBigEndian digits * 256 + digit.toNat := by
  unfold ofBigEndian
  rw [List.foldl_append]
  rfl

/-- Digits give back the number, as far as they reach. -/
theorem ofBigEndian_bigEndian (width n : Nat) :
    ofBigEndian (bigEndian width n) = n % 256 ^ width := by
  induction width generalizing n with
  | zero =>
      rw [Nat.pow_zero, Nat.mod_one]
      rfl
  | succ width ih =>
      have hpow : 256 ^ (width + 1) = 256 * 256 ^ width := Nat.pow_succ'
      unfold bigEndian
      rw [ofBigEndian_append, ih, UInt8.toNat_ofNat', hpow, Nat.mod_mul]
      omega

-- ==================================================================== words

namespace Word

/-- A number that a word has room for is the number of its word. -/
theorem toNat_ofNat {n : Nat} (h : n < 256 ^ 32) :
    Bytes.toNat (ofNat n) = n := by
  show ofBigEndian (bigEndian 32 n) = n
  rw [ofBigEndian_bigEndian, Nat.mod_eq_of_lt h]

/-- Numbers that fit in a word are told apart by it. -/
theorem ofNat_inj {m n : Nat} (hm : m < 256 ^ 32) (hn : n < 256 ^ 32)
    (h : ofNat m = ofNat n) : m = n := by
  rw [← toNat_ofNat hm, h, toNat_ofNat hn]

/-- The name of a chain stands whole at the left of its word. -/
theorem ofChain_inj {a b : ChainId} (h : ofChain a = ofChain b) : a = b := by
  have hlists : a.toList ++ _ = b.toList ++ _ := congrArg Bytes.toList h
  have hlength : a.toList.length = b.toList.length :=
    a.length_toList.trans b.length_toList.symm
  exact Bytes.ext (List.append_inj hlists hlength).1

end Word

-- =============================================================== the buffer

/-- Equal buffers of words end in equal words. -/
theorem append_word_inj {p q : List UInt8} {v w : Word}
    (h : p ++ v.toList = q ++ w.toList) : p = q ∧ v = w := by
  have hlength : v.toList.length = w.toList.length :=
    v.length_toList.trans w.length_toList.symm
  obtain ⟨hp, hv⟩ := List.append_inj' h hlength
  exact ⟨hp, Bytes.ext hv⟩

/-- A nonce fits in a word. -/
theorem Word.ofNonce_inj {m n : UInt64}
    (h : ofNat m.toNat = ofNat n.toNat) : m = n := by
  refine UInt64.toNat_inj.mp (ofNat_inj ?_ ?_ h)
  · exact Nat.lt_of_lt_of_le m.toNat_lt (by decide)
  · exact Nat.lt_of_lt_of_le n.toNat_lt (by decide)

theorem Word.ofAmount_inj {a b : Amount}
    (h : ofNat a.toNat = ofNat b.toNat) : a = b := by
  refine Amount.ext (ofNat_inj ?_ ?_ h)
  · exact Nat.lt_of_lt_of_le a.toNat_lt (by decide)
  · exact Nat.lt_of_lt_of_le b.toNat_lt (by decide)

/-- Transfers with the same buffer are the same. -/
theorem Transfer.preimage_injective {s t : Transfer}
    (h : s.preimage = t.preimage) : s = t := by
  unfold preimage at h
  obtain ⟨h, hnonce⟩ := append_word_inj h
  obtain ⟨h, hamount⟩ := append_word_inj h
  obtain ⟨h, htoken⟩ := append_word_inj h
  obtain ⟨h, hdest⟩ := append_word_inj h
  obtain ⟨h, hsrc⟩ := append_word_inj h
  obtain ⟨h, hdestChain⟩ := append_word_inj h
  have hsrcChain := Bytes.ext h
  have hnonce' := Word.ofNonce_inj hnonce
  have hamount' := Word.ofAmount_inj hamount
  have hsrcChain' := Word.ofChain_inj hsrcChain
  have hdestChain' := Word.ofChain_inj hdestChain
  cases s
  cases t
  simp_all only

end TokenBridge
