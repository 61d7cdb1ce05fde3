/-
Which texts are numerals, and of which number.

A digit is a character that in lower case is the usual one (`IsDigit`). A
numeral is one digit or more, the most significant first, with a plus sign
before them or without (`IsNumeral`). A reader multiplies what it has read
by the base and adds the next digit; what it comes to in the end is the
number whose digits these are, however many zeros lead them. There are
numerals of every number: the usual ones of base ten among them.
-/
import Mathlib.Data.List.Forall2
import Mathlib.Data.Nat.Digits.Defs
import TokenBridge.Proofs.Letters
import TokenBridge.Text.Numeral

namespace TokenBridge.Text

-- ================================================================= one digit

/-- A character stands for a digit of a base, in either letter case. -/
def IsDigit (base : Nat) (c : Char) (d : Nat) : Prop :=
  d < base ∧ c.toLower = Nat.digitChar d

theorem toNat_digitChar {d : Nat} (h : d < 16) :
    (Nat.digitChar d).toNat = if d < 10 then 48 + d else 87 + d := by
  decide +revert

theorem toLower_digitChar {d : Nat} (h : d < 16) :
    (Nat.digitChar d).toLower = Nat.digitChar d := by
  decide +revert

/-- The usual digit of a number below the base stands for it. -/
theorem isDigit_digitChar {base d : Nat} (small : base ≤ 16) (h : d < base) :
    IsDigit base (Nat.digitChar d) d :=
  ⟨h, toLower_digitChar (Nat.lt_of_lt_of_le h small)⟩

/-- Where in the alphabet a digit of base sixteen stands. -/
theorem isDigit_sixteen_iff {c : Char} {d : Nat} :
    IsDigit 16 c d ↔ (c.toNat = 48 + d ∧ d < 10)
      ∨ (10 ≤ d ∧ d < 16 ∧ (c.toNat = 55 + d ∨ c.toNat = 87 + d)) := by
  unfold IsDigit
  rw [← Char.toNat_inj, toNat_toLower]
  constructor
  · intro ⟨hd, hc⟩
    rw [toNat_digitChar hd] at hc
    -- a letter of upper case stands 32 below the usual digit
    by_cases hupper : c.isUpper = true
    · have hrange := isUpper_iff.mp hupper
      rw [if_pos hupper] at hc
      split at hc <;> omega
    · rw [if_neg hupper] at hc
      split at hc <;> omega
  · intro h
    have hd : d < 16 := by omega
    refine ⟨hd, ?_⟩
    rw [toNat_digitChar hd]
    by_cases hupper : c.isUpper = true
    · have hrange := isUpper_iff.mp hupper
      rw [if_pos hupper]
      split <;> omega
    · rw [isUpper_iff] at hupper
      rw [if_neg (mt isUpper_iff.mp hupper)]
      split <;> omega

/-- What is read as a hexadecimal digit is a digit of base sixteen. Three
ranges are tried in turn, and no character is in two of them. -/
theorem hexValue?_eq_some_iff {c : Char} {d : Nat} :
    hexValue? c = some d ↔ IsDigit 16 c d := by
  have hle : ∀ a b : Char, a ≤ b ↔ a.toNat ≤ b.toNat := fun _ _ =>
    UInt32.le_iff_toNat_le
  have hzero : '0'.toNat = 48 ∧ '9'.toNat = 57 := by decide
  have hlower : 'a'.toNat = 97 ∧ 'f'.toNat = 102 := by decide
  have hupper : 'A'.toNat = 65 ∧ 'F'.toNat = 70 := by decide
  rw [isDigit_sixteen_iff]
  simp only [hexValue?, hle, hzero, hlower, hupper]
  split
  · rw [Option.some.injEq]
    omega
  · split
    · rw [Option.some.injEq]
      omega
    · split
      · rw [Option.some.injEq]
        omega
      · simp only [reduceCtorEq, false_iff]
        omega

/-- Every digit of a smaller base is one of base sixteen. -/
theorem IsDigit.sixteen {base d : Nat} {c : Char} (h : IsDigit base c d)
    (small : base ≤ 16) : IsDigit 16 c d :=
  ⟨Nat.lt_of_lt_of_le h.1 small, h.2⟩

/-- A digit of a smaller base is one of base sixteen that is below the base. -/
theorem digitValue?_eq_some_iff {base d : Nat} {c : Char}
    (small : base ≤ 16) : digitValue? base c = some d ↔ IsDigit base c d := by
  unfold digitValue?
  rw [Option.filter_eq_some_iff, hexValue?_eq_some_iff, decide_eq_true_eq]
  exact ⟨fun h => ⟨h.2, h.1.2⟩, fun h => ⟨h.sixteen small, h.1⟩⟩

theorem IsDigit.visible {base d : Nat} {c : Char} (h : IsDigit base c d)
    (small : base ≤ 16) : 33 ≤ c.toNat ∧ c.toNat ≤ 126 := by
  have hplace := isDigit_sixteen_iff.mp (h.sixteen small)
  omega

-- =============================================================== many digits

/-- Characters stand for digits, one for one. -/
def AreDigits (base : Nat) : List Char → List Nat → Prop :=
  List.Forall₂ (IsDigit base)

/-- The usual digits of numbers below the base stand for them, one by one. -/
theorem areDigits_map_digitChar {base : Nat} (small : base ≤ 16)
    {ds : List Nat} (h : ∀ d ∈ ds, d < base) :
    AreDigits base (ds.map Nat.digitChar) ds := by
  unfold AreDigits
  rw [List.forall₂_map_left_iff, List.forall₂_same]
  exact fun d hd => isDigit_digitChar small (h d hd)

namespace AreDigits

variable {base : Nat} {cs : List Char} {ds : List Nat}

theorem map_toLower (h : AreDigits base cs ds) :
    cs.map Char.toLower = ds.map Nat.digitChar := by
  induction h with
  | nil => rfl
  | cons hc _ ih => rw [List.map_cons, List.map_cons, hc.2, ih]

/-- Where characters stand for digits, none of them is anything else. -/
theorem isDigit_of_mem (h : AreDigits base cs ds) {c : Char} (hc : c ∈ cs) :
    ∃ d, IsDigit base c d := by
  induction h with
  | nil => cases hc
  | cons hd _ ih =>
      rcases List.mem_cons.mp hc with rfl | hc
      · exact ⟨_, hd⟩
      · exact ih hc

end AreDigits

/-- Reading goes on from the number that was read before. -/
theorem readDigits?_eq_some_iff {base value n : Nat} (small : base ≤ 16)
    {cs : List Char} :
    readDigits? base value cs = some n
      ↔ ∃ ds, AreDigits base cs ds
        ∧ n = value * base ^ cs.length + Nat.ofDigits base ds.reverse := by
  induction cs generalizing value with
  | nil =>
      simp [readDigits?, AreDigits, eq_comm]
  | cons c rest ih =>
      -- the next digit is worth as much as all digits after it together
      have hvalue : ∀ {d : Nat} {ds : List Nat}, AreDigits base rest ds →
          (value * base + d) * base ^ rest.length
              + Nat.ofDigits base ds.reverse
            = value * base ^ (rest.length + 1)
              + Nat.ofDigits base (d :: ds).reverse := by
        intro d ds hds
        rw [Nat.ofDigits_reverse_cons, ← hds.length_eq, Nat.add_mul,
          Nat.mul_assoc, ← Nat.pow_succ', Nat.mul_comm d, Nat.succ_eq_add_one]
        omega
      have hread : readDigits? base value (c :: rest)
          = (digitValue? base c).bind fun d =>
            readDigits? base (value * base + d) rest := by
        rw [readDigits?]
        cases digitValue? base c with
        | none => rfl
        | some d => rfl
      rw [hread, Option.bind_eq_some_iff]
      simp only [digitValue?_eq_some_iff small, ih, AreDigits,
        List.forall₂_cons_left_iff, List.length_cons]
      constructor
      · rintro ⟨d, hd, ds, hds, rfl⟩
        exact ⟨d :: ds, ⟨d, ds, hd, hds, rfl⟩, hvalue hds⟩
      · rintro ⟨_, ⟨d, ds, hd, hds, rfl⟩, rfl⟩
        exact ⟨d, hd, ds, hds, (hvalue hds).symm⟩

-- ================================================================== numerals

/-- Digits, one or more and the most significant first, denote a number. -/
def Denote (base : Nat) (cs : List Char) (n : Nat) : Prop :=
  cs ≠ [] ∧ ∃ ds, AreDigits base cs ds ∧ n = Nat.ofDigits base ds.reverse

/-- A numeral of a number: digits that denote it, or a plus sign and such
digits. -/
def IsNumeral (base : Nat) (cs : List Char) (n : Nat) : Prop :=
  ∃ digits, (cs = digits ∨ cs = '+' :: digits) ∧ Denote base digits n

section

variable {base n : Nat} {cs : List Char} {c : Char}

/-- Digits without a sign are a numeral as they stand. -/
theorem Denote.isNumeral (h : Denote base cs n) : IsNumeral base cs n :=
  ⟨cs, .inl rfl, h⟩

/-- No digits hold a character that is none. -/
theorem Denote.not_mem (h : Denote base cs n) (small : base ≤ 16)
    (other : hexValue? c = none) : c ∉ cs := by
  intro hc
  obtain ⟨-, ds, hds, -⟩ := h
  obtain ⟨d, hd⟩ := hds.isDigit_of_mem hc
  cases other.symm.trans (hexValue?_eq_some_iff.mpr (hd.sixteen small))

/-- Numerals are visible ASCII characters throughout. -/
theorem IsNumeral.visible (h : IsNumeral base cs n) (small : base ≤ 16) :
    ∀ c ∈ cs, 33 ≤ c.toNat ∧ c.toNat ≤ 126 := by
  obtain ⟨digits, hsign, -, ds, hds, -⟩ := h
  have hdigits : ∀ c ∈ digits, 33 ≤ c.toNat ∧ c.toNat ≤ 126 := by
    intro c hc
    obtain ⟨d, hd⟩ := hds.isDigit_of_mem hc
    exact hd.visible small
  rcases hsign with rfl | rfl
  · exact hdigits
  · exact List.forall_mem_cons.mpr ⟨by decide, hdigits⟩

/-- One digit more, at the end. -/
theorem Denote.concat {d : Nat} (h : Denote base cs n)
    (hd : IsDigit base c d) : Denote base (cs ++ [c]) (n * base + d) := by
  obtain ⟨-, ds, hds, rfl⟩ := h
  refine ⟨List.append_ne_nil_of_right_ne_nil cs (List.cons_ne_nil c []),
    ds ++ [d], List.rel_append hds (.cons hd .nil), ?_⟩
  rw [List.reverse_append, List.reverse_singleton, List.singleton_append,
    Nat.ofDigits_cons, Nat.mul_comm]
  exact Nat.add_comm _ _

/-- The sign is taken off once: what follows it has to be digits. -/
theorem isNumeral_signed_iff (small : base ≤ 16) :
    IsNumeral base ('+' :: cs) n ↔ Denote base cs n := by
  constructor
  · rintro ⟨digits, rfl | hsigned, h⟩
    · exact absurd List.mem_cons_self (h.not_mem small (by decide))
    · cases hsigned
      exact h
  · exact fun h => ⟨cs, .inr rfl, h⟩

/-- Without a sign in front a numeral is its digits. -/
theorem isNumeral_bare_iff (bare : ∀ digits, cs ≠ '+' :: digits) :
    IsNumeral base cs n ↔ Denote base cs n := by
  constructor
  · rintro ⟨digits, rfl | hsigned, h⟩
    · exact h
    · exact absurd hsigned (bare digits)
  · exact Denote.isNumeral

/-- Read from nothing, digits come to the number that they denote. -/
theorem readDigits?_zero_iff (small : base ≤ 16) (nonempty : cs ≠ []) :
    readDigits? base 0 cs = some n ↔ Denote base cs n := by
  rw [readDigits?_eq_some_iff small, Denote, Nat.zero_mul]
  simp only [Nat.zero_add, ne_eq, nonempty, not_false_eq_true, true_and]

/-- What is read as a numeral is one. -/
theorem readNumeral?_eq_some_iff (small : base ≤ 16) :
    readNumeral? base cs = some n ↔ IsNumeral base cs n := by
  have hempty : ¬Denote base [] n := fun h => h.1 rfl
  unfold readNumeral?
  split
  next => simp [isNumeral_bare_iff, hempty]
  next => simp [isNumeral_signed_iff small, hempty]
  next rest hrest =>
    rw [isNumeral_signed_iff small]
    exact readDigits?_zero_iff small fun h => hrest h
  next hne _ hsigned =>
    rw [isNumeral_bare_iff fun digits h => hsigned digits h]
    exact readDigits?_zero_iff small fun h => hne h

/-- A limit refuses numbers, not spellings: leading zeros never make a numeral
too long. -/
theorem readBelow?_eq_some_iff {limit : Nat} (small : base ≤ 16) :
    readBelow? base limit cs = some n ↔ IsNumeral base cs n ∧ n < limit := by
  unfold readBelow?
  rw [Option.filter_eq_some_iff, readNumeral?_eq_some_iff small,
    decide_eq_true_eq]

end

/-- The usual digits of a number denote it. -/
theorem denote_toDigits {base : Nat} (large : 1 < base) (small : base ≤ 16)
    (n : Nat) : Denote base (Nat.toDigits base n) n := by
  induction n using Nat.strongRecOn with
  | ind n ih =>
      by_cases hn : n < base
      · rw [Nat.toDigits_of_lt_base hn]
        refine ⟨List.cons_ne_nil _ _, [n],
          .cons (isDigit_digitChar small hn) .nil, ?_⟩
        rw [List.reverse_singleton, Nat.ofDigits_singleton]
      · have hle : base ≤ n := Nat.le_of_not_lt hn
        have hfront := ih (n / base) (Nat.div_lt_self (by omega) large)
        have hlast : n % base < base := Nat.mod_lt n (by omega)
        rw [Nat.toDigits_of_base_le large hle]
        have hall := hfront.concat (isDigit_digitChar small hlast)
        rw [Nat.div_add_mod'] at hall
        exact hall

end TokenBridge.Text
