/-
Byte strings that carry their size, and the byte forms of numbers and texts.

Everything the bridge hashes or stores under a key is a byte string of a
known size: four bytes name a chain, thirty-two make a word. `Bytes n` puts
the size into the type, so a layout such as "seven words, one after the
other" needs no length check anywhere. Numbers are written big-endian and
texts in UTF-8.
-/

namespace TokenBridge

-- ================================================= numbers and texts as bytes

/-- The lowest `width` base-256 digits of a number, most significant first. -/
def bigEndian : (width : Nat) → Nat → List UInt8
  | 0, _ => []
  | width + 1, n => bigEndian width (n / 256) ++ [UInt8.ofNat n]

/-- A number has as many digits as it is given room for. -/
theorem length_bigEndian (width n : Nat) : (bigEndian width n).length = width := by
  induction width generalizing n with
  | zero => rfl
  | succ width ih => simp [bigEndian, ih]

/-- The number that base-256 digits denote, most significant first. -/
def ofBigEndian (digits : List UInt8) : Nat :=
  digits.foldl (fun value digit => value * 256 + digit.toNat) 0

/-- The UTF-8 bytes of a text. -/
def utf8 (text : String) : List UInt8 :=
  text.toList.flatMap String.utf8EncodeChar

/-- How many UTF-8 bytes a list of characters takes. -/
def utf8Length : List Char → Nat
  | [] => 0
  | c :: rest => c.utf8Size + utf8Length rest

-- ========================================================== sized byte strings

/-- Exactly `n` bytes. -/
structure Bytes (n : Nat) where
  toList : List UInt8
  length_toList : toList.length = n
deriving DecidableEq

/-- The name of a chain. -/
abbrev ChainId := Bytes 4

/-- Thirty-two bytes: a hash, an account or a token as every chain sees it. -/
abbrev Word := Bytes 32

namespace Bytes

variable {m n : Nat}

/-- Sized bytes are their list; that it has the size adds nothing to
compare. -/
@[ext] theorem ext {a b : Bytes n} (h : a.toList = b.toList) : a = b := by
  cases a; cases b; cases h; rfl

/-- The bytes given, if there are `n` of them. -/
def ofList? (n : Nat) (bytes : List UInt8) : Option (Bytes n) :=
  if h : bytes.length = n then some ⟨bytes, h⟩ else none

/-- Sized bytes have the size they are asked for. -/
theorem ofList?_toList (a : Bytes n) : ofList? n a.toList = some a := by
  simp [ofList?, a.length_toList]

/-- Bytes of the right number are sized as they stand, and no others are. -/
theorem ofList?_eq_some_iff {bytes : List UInt8} {a : Bytes n} :
    ofList? n bytes = some a ↔ bytes = a.toList := by
  constructor
  · intro h
    by_cases hl : bytes.length = n
    · simp only [ofList?, dif_pos hl, Option.some.injEq] at h
      rw [← h]
    · simp [ofList?, hl] at h
  · rintro rfl
    exact ofList?_toList a

/-- `n` zero bytes. -/
def zero (n : Nat) : Bytes n := ⟨List.replicate n 0, List.length_replicate⟩

/-- One byte string after another. -/
def append (a : Bytes m) (b : Bytes n) : Bytes (m + n) :=
  ⟨a.toList ++ b.toList, by simp [a.length_toList, b.length_toList]⟩

/-- The `len` bytes that begin at `start`. -/
def extract (a : Bytes n) (start len : Nat) (h : start + len ≤ n) : Bytes len :=
  ⟨(a.toList.drop start).take len, by simp [a.length_toList]; omega⟩

/-- A number in `n` bytes, big-endian, its higher digits dropped. -/
def ofNat (n value : Nat) : Bytes n := ⟨bigEndian n value, length_bigEndian n value⟩

/-- The number the bytes denote, big-endian. -/
def toNat (a : Bytes n) : Nat := ofBigEndian a.toList

/-- Byte strings compare byte by byte. -/
instance : Ord (Bytes n) := ⟨fun a b => compare a.toList b.toList⟩

/-- The comparison is the one of the lists. -/
theorem compare_def (a b : Bytes n) : compare a b = compare a.toList b.toList := rfl

instance : Std.TransOrd (Bytes n) where
  eq_swap {a b} := by
    rw [compare_def, compare_def]
    exact Std.OrientedCmp.eq_swap
  isLE_trans {a b c} hab hbc := by
    rw [compare_def] at *
    exact Std.TransCmp.isLE_trans hab hbc

instance : Std.LawfulEqOrd (Bytes n) where
  compare_self {a} := by
    rw [compare_def]
    exact Std.ReflCmp.compare_self
  eq_of_compare {a b} h := by
    rw [compare_def] at h
    exact ext (Std.LawfulEqCmp.eq_of_compare h)

end Bytes

-- ==================================================================== words

namespace Word

/-- A chain name at the left of a word, zeros after it. -/
def ofChain (chain : ChainId) : Word := chain.append (Bytes.zero 28)

/-- A number at the right of a word. -/
def ofNat (value : Nat) : Word := Bytes.ofNat 32 value

/-- At most thirty-two bytes at the right of a word, zeros before them. -/
def rightAligned? (bytes : List UInt8) : Option Word :=
  Bytes.ofList? 32 (List.replicate (32 - bytes.length) 0 ++ bytes)

end Word

end TokenBridge
