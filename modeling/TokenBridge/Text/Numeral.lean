/-
Numerals: what a text must look like to denote a natural number.

One form serves every number that arrives as text, in configuration values
and in messages: an optional plus sign, then one or more digits of the
base, of either letter case, and nothing else. Leading zeros are fine. A
limit keeps the value in the width of the field that it is meant for.
-/

namespace TokenBridge.Text

/-- The value of a hexadecimal digit, of either letter case. -/
def hexValue? (c : Char) : Option Nat :=
  if '0' ≤ c ∧ c ≤ '9' then some (c.toNat - '0'.toNat)
  else if 'a' ≤ c ∧ c ≤ 'f' then some (c.toNat - 'a'.toNat + 10)
  else if 'A' ≤ c ∧ c ≤ 'F' then some (c.toNat - 'A'.toNat + 10)
  else none

/-- The value of a digit of a base, for bases up to sixteen. -/
def digitValue? (base : Nat) (c : Char) : Option Nat :=
  (hexValue? c).filter (· < base)

/-- The number that digits denote after a number already read. -/
def readDigits? (base : Nat) : (value : Nat) → List Char → Option Nat
  | value, [] => some value
  | value, c :: rest =>
    match digitValue? base c with
    | some d => readDigits? base (value * base + d) rest
    | none => none

/-- The number of a numeral: an optional plus sign and at least one digit. -/
def readNumeral? (base : Nat) : List Char → Option Nat
  | [] => none
  | ['+'] => none
  | '+' :: rest => readDigits? base 0 rest
  | chars => readDigits? base 0 chars

/-- The number of a numeral, if it is below a limit. -/
def readBelow? (base limit : Nat) (chars : List Char) : Option Nat :=
  (readNumeral? base chars).filter (· < limit)

end TokenBridge.Text
