/-
Base64 text for byte strings of any size.

Written form: the standard alphabet, three bytes to four characters, with
the padding that fills the last four. Reading takes the padding as optional
and possibly incomplete, but refuses more of it than the last four
characters have room for, and refuses a last character whose unused bits
are not zero, so that the characters before the padding have one reading
and each byte string has one such spelling.
-/

namespace TokenBridge.Base64

-- ============================================================= the alphabet

/-- The character for six bits. -/
def symbol (n : Nat) : Char :=
  if n < 26 then Char.ofNat ('A'.toNat + n)
  else if n < 52 then Char.ofNat ('a'.toNat + (n - 26))
  else if n < 62 then Char.ofNat ('0'.toNat + (n - 52))
  else if n = 62 then '+'
  else '/'

/-- The six bits of a character. -/
def value? (c : Char) : Option Nat :=
  if 'A' ≤ c ∧ c ≤ 'Z' then some (c.toNat - 'A'.toNat)
  else if 'a' ≤ c ∧ c ≤ 'z' then some (c.toNat - 'a'.toNat + 26)
  else if '0' ≤ c ∧ c ≤ '9' then some (c.toNat - '0'.toNat + 52)
  else if c = '+' then some 62
  else if c = '/' then some 63
  else none

-- ================================================================== writing

/-- The characters for bytes, padding included. -/
def encodeChars : List UInt8 → List Char
  | [] => []
  | [a] =>
    let n := a.toNat * 16
    [symbol (n / 64), symbol (n % 64), '=', '=']
  | [a, b] =>
    let n := (a.toNat * 256 + b.toNat) * 4
    [symbol (n / 4096), symbol (n / 64 % 64), symbol (n % 64), '=']
  | a :: b :: c :: rest =>
    let n := (a.toNat * 256 + b.toNat) * 256 + c.toNat
    symbol (n / 262144) :: symbol (n / 4096 % 64) :: symbol (n / 64 % 64) :: symbol (n % 64) ::
      encodeChars rest

/-- The written form of bytes. -/
def encode (bytes : List UInt8) : String :=
  String.ofList (encodeChars bytes)

-- ================================================================== reading

/-- The bytes of six-bit values, if no value is left over and the unused bits are zero. -/
def bytesOfValues? : List Nat → Option (List UInt8)
  | [] => some []
  | [_] => none
  | [a, b] =>
    let n := a * 64 + b
    if n % 16 = 0 then some [UInt8.ofNat (n / 16)] else none
  | [a, b, c] =>
    let n := (a * 64 + b) * 64 + c
    if n % 4 = 0 then some [UInt8.ofNat (n / 1024), UInt8.ofNat (n / 4)] else none
  | a :: b :: c :: d :: rest =>
    let n := ((a * 64 + b) * 64 + c) * 64 + d
    (bytesOfValues? rest).map fun bytes =>
      UInt8.ofNat (n / 65536) :: UInt8.ofNat (n / 256) :: UInt8.ofNat n :: bytes

/-- The bytes that a text denotes. -/
def decode? (text : String) : Option (List UInt8) :=
  let body := text.toList.takeWhile (· ≠ '=')
  let padding := text.toList.dropWhile (· ≠ '=')
  if padding.all (· = '=') ∧ padding.length ≤ (4 - body.length % 4) % 4 then
    (body.mapM value?).bind bytesOfValues?
  else none

end TokenBridge.Base64
