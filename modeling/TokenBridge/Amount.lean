/-
Token amounts and 64-bit counters.

An amount is a natural number below 2^128. Addition and subtraction say
`none` when the result would leave that range, so a caller has to decide
what an overflow means: a refusal, or an arithmetic fault that undoes the
step. Times, nonces and fee rates are 64-bit words with the one operation
they need, addition that stops at the largest word.
-/

namespace TokenBridge

/-- How many amounts there are, 2^128. -/
abbrev amountLimit : Nat := 0x100000000000000000000000000000000

/-- How many 64-bit words there are, 2^64. -/
abbrev word64Limit : Nat := 0x10000000000000000

/-- A number of the smallest units of a token. -/
structure Amount where
  toNat : Nat
  toNat_lt : toNat < amountLimit
deriving DecidableEq

namespace Amount

/-- An amount is its number. -/
@[ext] theorem ext {a b : Amount} (h : a.toNat = b.toNat) : a = b := by
  cases a; cases b; cases h; rfl

/-- The amount with this value, if it is small enough. -/
def ofNat? (n : Nat) : Option Amount :=
  if h : n < amountLimit then some ⟨n, h⟩ else none

/-- A number that is an amount is that amount. -/
theorem ofNat?_eq_some_iff {n : Nat} {a : Amount} : ofNat? n = some a ↔ n = a.toNat := by
  unfold ofNat?
  split
  · rw [Option.some.injEq, Amount.ext_iff]
  · constructor
    · intro h; cases h
    · intro h; have := a.toNat_lt; omega

/-- A number is no amount from the limit on. -/
theorem ofNat?_eq_none_iff {n : Nat} : ofNat? n = none ↔ amountLimit ≤ n := by
  unfold ofNat?
  split <;> simp <;> omega

/-- Nothing. -/
def zero : Amount := ⟨0, by decide⟩

/-- An amount of nothing. -/
def isZero (a : Amount) : Bool := a.toNat == 0

/-- The sum, if it is an amount. -/
def add? (a b : Amount) : Option Amount := ofNat? (a.toNat + b.toNat)

/-- The difference, if nothing is missing. -/
def sub? (a b : Amount) : Option Amount :=
  if b.toNat ≤ a.toNat then some ⟨a.toNat - b.toNat, by have := a.toNat_lt; omega⟩ else none

/-- What `a` has over `b`, zero if it has nothing. -/
def excess (a b : Amount) : Amount :=
  ⟨a.toNat - b.toNat, by have := a.toNat_lt; omega⟩

/-- Amounts compare as their numbers. -/
instance : LE Amount := ⟨fun a b => a.toNat ≤ b.toNat⟩
instance : LT Amount := ⟨fun a b => a.toNat < b.toNat⟩
instance (a b : Amount) : Decidable (a ≤ b) := inferInstanceAs (Decidable (a.toNat ≤ b.toNat))
instance (a b : Amount) : Decidable (a < b) := inferInstanceAs (Decidable (a.toNat < b.toNat))

/-- A sum of amounts is the sum of their numbers, where that is an amount. -/
theorem add?_eq_some_iff {a b c : Amount} : add? a b = some c ↔ a.toNat + b.toNat = c.toNat :=
  ofNat?_eq_some_iff

/-- A difference is what makes up the sum again. -/
theorem sub?_eq_some_iff {a b c : Amount} : sub? a b = some c ↔ c.toNat + b.toNat = a.toNat := by
  unfold sub?
  split
  · rw [Option.some.injEq, Amount.ext_iff]
    simp only
    omega
  · constructor
    · intro h; cases h
    · intro h; omega

/-- A difference is missing just where it would be negative. -/
theorem sub?_eq_none_iff {a b : Amount} : sub? a b = none ↔ a < b := by
  unfold sub?
  split
  case isTrue h => exact iff_of_false (fun hnone => by cases hnone) (Nat.not_lt.mpr h)
  case isFalse h => exact iff_of_true rfl (Nat.not_le.mp h)

/-- The decimal digits of an amount. -/
def toText (a : Amount) : String := Nat.repr a.toNat

end Amount

/-- The largest 64-bit word. -/
def maxWord64 : UInt64 := 0xffffffffffffffff

/-- The sum of two 64-bit words, or the largest word where that is too small. -/
def saturatingAdd (a b : UInt64) : UInt64 :=
  UInt64.ofNat (min (a.toNat + b.toNat) (word64Limit - 1))

/-- The sum stops at the greatest word. -/
theorem toNat_saturatingAdd (a b : UInt64) :
    (saturatingAdd a b).toNat = min (a.toNat + b.toNat) (word64Limit - 1) := by
  rw [saturatingAdd, UInt64.toNat_ofNat', word64Limit]
  omega

/-- The word with this value, if it fits in 64 bits. -/
def word64? (n : Nat) : Option UInt64 :=
  if n < word64Limit then some (UInt64.ofNat n) else none

/-- The decimal digits of a 64-bit word. -/
def word64Text (n : UInt64) : String := Nat.repr n.toNat

end TokenBridge
