/-
Sized bytes: the number they denote, and the parts they are put together
from.

A number below 256 ^ n and n bytes say the same thing, so writing it and
reading it back are inverse in both directions. And bytes that are put
together can be cut apart at the same places, from either end.
-/
import Mathlib.Data.List.Induction
import TokenBridge.Proofs.Transfer

namespace TokenBridge

-- ================================================================== numbers

/-- Each digit makes room for 256 times as many numbers. -/
theorem ofBigEndian_lt (digits : List UInt8) :
    ofBigEndian digits < 256 ^ digits.length := by
  induction digits using List.reverseRecOn with
  | nil => exact Nat.one_pos
  | append_singleton digits digit ih =>
      have hdigit : digit.toNat < 256 := digit.toNat_lt
      rw [ofBigEndian_append, List.length_append, List.length_singleton,
        Nat.pow_succ]
      omega

/-- Bytes are the digits of the number that they denote. -/
theorem bigEndian_ofBigEndian (digits : List UInt8) :
    bigEndian digits.length (ofBigEndian digits) = digits := by
  induction digits using List.reverseRecOn with
  | nil => rfl
  | append_singleton digits digit ih =>
      have hdigit : digit.toNat < 256 := digit.toNat_lt
      have hrest : (ofBigEndian digits * 256 + digit.toNat) / 256
          = ofBigEndian digits := by
        omega
      have hlast : UInt8.ofNat (ofBigEndian digits * 256 + digit.toNat)
          = digit := by
        apply UInt8.toNat_inj.mp
        rw [UInt8.toNat_ofNat']
        omega
      rw [List.length_append, List.length_singleton, ofBigEndian_append,
        bigEndian, hrest, hlast, ih]

namespace Bytes

variable {m n : Nat}

/-- So many bytes denote a number that they have room for. -/
theorem toNat_lt (a : Bytes n) : a.toNat < 256 ^ n := by
  have hlt := ofBigEndian_lt a.toList
  rw [a.length_toList] at hlt
  exact hlt

/-- A number that the bytes have room for is read back. -/
theorem toNat_ofNat {value : Nat} (h : value < 256 ^ n) :
    (ofNat n value).toNat = value := by
  show ofBigEndian (bigEndian n value) = value
  rw [ofBigEndian_bigEndian, Nat.mod_eq_of_lt h]

/-- Bytes are written back from their number. -/
theorem ofNat_toNat (a : Bytes n) : ofNat n a.toNat = a := by
  apply Bytes.ext
  show bigEndian n (ofBigEndian a.toList) = a.toList
  have hdigits := bigEndian_ofBigEndian a.toList
  rw [a.length_toList] at hdigits
  exact hdigits

-- ==================================================================== parts

variable {start len : Nat}

/-- A part that ends before the second of two byte strings is one of the
first. -/
theorem extract_append_of_le (a : Bytes m) (b : Bytes n)
    (h : start + len ≤ m) :
    (a.append b).extract start len (Nat.le_add_right_of_le h)
      = a.extract start len h := by
  have hlength := a.length_toList
  apply Bytes.ext
  show ((a.toList ++ b.toList).drop start).take len
    = (a.toList.drop start).take len
  rw [List.drop_append_of_le_length (by omega),
    List.take_append_of_le_length (by rw [List.length_drop]; omega)]

/-- All that comes after the first of two byte strings is the second. -/
theorem extract_append_right (a : Bytes m) (b : Bytes n) :
    (a.append b).extract m n (Nat.le_refl _) = b := by
  apply Bytes.ext
  show ((a.toList ++ b.toList).drop m).take n = b.toList
  rw [List.drop_left' a.length_toList,
    List.take_of_length_le (Nat.le_of_eq b.length_toList)]

theorem extract_all (a : Bytes n) (h : 0 + n ≤ n) : a.extract 0 n h = a :=
  Bytes.ext (List.take_of_length_le (Nat.le_of_eq a.length_toList))

/-- Two parts, the second from where the first ends, are one part. -/
theorem append_extract (a : Bytes n) (h : start + (len + m) ≤ n) :
    (a.extract start len (by omega)).append
        (a.extract (start + len) m (by omega))
      = a.extract start (len + m) h := by
  apply Bytes.ext
  show (a.toList.drop start).take len ++ (a.toList.drop (start + len)).take m
    = (a.toList.drop start).take (len + m)
  rw [List.take_add, List.drop_drop]

end Bytes

end TokenBridge
