/-
Hexadecimal text for byte strings of a fixed size.

Written form: "0x" and two lower-case digits for each byte, high half
first. Reading is wider: the "0x" may be missing and digits may be of
either letter case, but there must be exactly two digits for each byte.
The length is checked before the digits, and in UTF-8 bytes, so a text of
the right number of characters can still be refused for its length.
-/
import TokenBridge.Bytes
import TokenBridge.Text.Numeral

namespace TokenBridge

-- ================================================================== writing

/-- The two digits of each byte. -/
def hexDigits (bytes : List UInt8) : List Char :=
  bytes.flatMap fun b => [Nat.digitChar (b.toNat / 16), Nat.digitChar (b.toNat % 16)]

/-- The written form of a byte string. -/
def hexText (bytes : List UInt8) : String :=
  String.ofList ('0' :: 'x' :: hexDigits bytes)

/-- The written form of sized bytes. -/
def Bytes.toHex {n : Nat} (a : Bytes n) : String := hexText a.toList

-- ================================================================== reading

/-- Why a text is no hexadecimal form of so many bytes. -/
inductive HexError
  /-- The text has not this many bytes after "0x". -/
  | length (expected : Nat)
  /-- Some character is no hexadecimal digit. -/
  | character
deriving DecidableEq

def HexError.message : HexError → String
  | .length expected => s!"Invalid hex length: expected {expected} characters"
  | .character => "Invalid hex character"

/-- The characters after one leading "0x", or all of them if there is none. -/
def withoutHexMark : List Char → List Char
  | '0' :: 'x' :: rest => rest
  | chars => chars

/-- The bytes that pairs of digits denote. -/
def readHexDigits? : List Char → Option (List UInt8)
  | [] => some []
  | [_] => none
  | high :: low :: rest =>
    match Text.hexValue? high, Text.hexValue? low, readHexDigits? rest with
    | some h, some l, some bytes => some (UInt8.ofNat (h * 16 + l) :: bytes)
    | _, _, _ => none

/-- The `n` bytes that a text denotes. -/
def Bytes.ofHex (n : Nat) (text : String) : Except HexError (Bytes n) :=
  let digits := withoutHexMark text.toList
  if utf8Length digits ≠ 2 * n then .error (.length (2 * n))
  else match (readHexDigits? digits).bind (Bytes.ofList? n) with
    | some bytes => .ok bytes
    | none => .error .character

end TokenBridge
