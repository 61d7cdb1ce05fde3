/-
Bech32 text: a readable part, the digit 1, and groups of five bits that end
in a checksum of six groups.

The checksum is the remainder of a polynomial over the groups, held here as
thirty bits: `absorb` shifts a group in at the low end and folds the group
that falls out at the high end back in. A text is good when the remainder
over the readable part, the payload and the checksum is one of two
constants, one for each variant of the format; both are read, the first is
written. Letters are of one case throughout, and the checksum is always
taken over lower case.

Reading reports the first fault in this order: no separator, the readable
part, the data characters from left to right, too few of them, the
checksum.
-/
import TokenBridge.Bytes

namespace TokenBridge.Bech32

/-- Why a text is not well formed, or a readable part not usable. -/
inductive Error
  | missingSeparator
  | checksum
  | length
  | character (c : Char)
  | padding
  | mixedCase
deriving DecidableEq

/-- The error in words. -/
def Error.message : Error → String
  | .missingSeparator => "missing human-readable separator, \"1\""
  | .checksum => "invalid checksum"
  | .length => "invalid length"
  | .character c => s!"invalid character (code={c})"
  | .padding => "invalid padding"
  | .mixedCase => "mixed-case strings not allowed"

/-- Five bits, one data character. -/
abbrev Group := BitVec 5

-- ============================================================= the alphabet

/-- The character of each group, in lower case. -/
def alphabet : List Char := "qpzry9x8gf2tvdw0s3jn54khce6mua7l".toList

/-- The character of a group. -/
def symbol (g : Group) : Char := alphabet.getD g.toNat 'q'

/-- The group of a character, of either letter case. -/
def group? (c : Char) : Option Group :=
  (alphabet.idxOf? c.toLower).map (BitVec.ofNat 5)

-- ============================================================= the checksum

/-- What each of the five bits that fall out puts back. -/
def generator : List (BitVec 30) :=
  [0x3b6a57b2#30, 0x26508e6d#30, 0x1ea119fa#30, 0x3d4233dd#30, 0x2a1462b3#30]

/-- What the five highest bits of a remainder put back. -/
def feedback (remainder : BitVec 30) : BitVec 30 :=
  (List.range 5).foldl (fun sum i =>
    if remainder.getLsbD (25 + i) then sum ^^^ generator.getD i 0#30 else sum) 0#30

/-- The remainder after one more group. -/
def absorb (remainder : BitVec 30) (g : Group) : BitVec 30 :=
  (remainder <<< 5) ^^^ g.setWidth 30 ^^^ feedback remainder

/-- The remainder of groups, from its first value on. -/
def remainder (groups : List Group) : BitVec 30 := groups.foldl absorb 1#30

/-- The groups that stand for the readable part: high bits, a zero, low bits. -/
def expand (readable : List UInt8) : List Group :=
  readable.map (fun b => BitVec.ofNat 5 (b.toNat / 32)) ++ 0#5 ::
    readable.map (fun b => BitVec.ofNat 5 b.toNat)

/-- The remainders of well-formed texts, one for each variant of the format. -/
def goodRemainders : List (BitVec 30) := [1#30, 0x2bc830a3#30]

/-- The six groups that bring the remainder to a constant. -/
def checksum (target : BitVec 30) (readable : List UInt8) (payload : List Group) : List Group :=
  let open_ := remainder (expand readable ++ payload ++ List.replicate 6 0#5) ^^^ target
  (List.range 6).map fun i => (open_ >>> (5 * (5 - i))).setWidth 5

-- =============================================================== letter case

/-- The case of a letter. -/
inductive LetterCase
  | lower
  | upper
deriving DecidableEq

/-- The case of an ASCII letter. -/
def letterCase? (c : Char) : Option LetterCase :=
  if c.isLower then some .lower else if c.isUpper then some .upper else none

/-- The case seen after one more character, unless it is the other one. -/
def noteCase (seen : Option LetterCase) (c : Char) : Except Error (Option LetterCase) :=
  match seen, letterCase? c with
  | some .lower, some .upper => .error .mixedCase
  | some .upper, some .lower => .error .mixedCase
  | none, found => .ok found
  | seen, _ => .ok seen

-- ========================================================= the readable part

/-- Checks the bytes of a readable part one by one: visible ASCII, one letter case. -/
def checkBytes : Option LetterCase → List UInt8 → Except Error (Option LetterCase)
  | seen, [] => .ok seen
  | seen, b :: rest =>
    let c := Char.ofNat b.toNat
    if b < 33 ∨ 126 < b then .error (.character c)
    else match noteCase seen c with
      | .ok seen => checkBytes seen rest
      | .error e => .error e

/-- A readable part has 1 to 83 bytes; its letter case, if it has letters. -/
def checkReadable (readable : List UInt8) : Except Error (Option LetterCase) :=
  if readable = [] ∨ 83 < readable.length then .error .length
  else checkBytes none readable

-- ================================================================== reading

/-- The characters before and after the last separator. -/
def splitAtLast (separator : Char) : List Char → Option (List Char × List Char)
  | [] => none
  | c :: rest =>
    match splitAtLast separator rest with
    | some (before, after) => some (c :: before, after)
    | none => if c = separator then some ([], rest) else none

/-- The groups of data characters, in the letter case seen so far. -/
def readGroups : Option LetterCase → List Char → Except Error (List Group)
  | _, [] => .ok []
  | seen, c :: rest =>
    if 128 ≤ c.toNat then .error (.character c)
    else match noteCase seen c with
      | .error e => .error e
      | .ok seen =>
        match group? c with
        | none => .error (.character c)
        | some g =>
          match readGroups seen rest with
          | .ok groups => .ok (g :: groups)
          | .error e => .error e

/-- The lower-case bytes of an ASCII text. -/
def lowerBytes (chars : List Char) : List UInt8 :=
  chars.map fun c => UInt8.ofNat c.toLower.toNat

/-- The payload of a text: its groups without the checksum. -/
def decode (text : String) : Except Error (List Group) := do
  match splitAtLast '1' text.toList with
  | none => .error .missingSeparator
  | some (readable, data) =>
    let seen ← checkReadable (utf8 (String.ofList readable))
    let groups ← readGroups seen data
    if groups.length < 6 then .error .length
    else if remainder (expand (lowerBytes readable) ++ groups) ∈ goodRemainders then
      .ok (groups.take (groups.length - 6))
    else .error .checksum

-- ================================================================== writing

/-- The text of a payload under a readable part. -/
def encode (readable : String) (payload : List Group) : Except Error String := do
  let _ ← checkReadable (utf8 readable)
  let chars := readable.toList.map Char.toLower
  let groups := payload ++ checksum 1#30 (lowerBytes chars) payload
  .ok (String.ofList (chars ++ '1' :: groups.map symbol))

-- ============================================================ groups and bytes

/-- The lowest `width` bits of a number, highest first. -/
def bits (width n : Nat) : List Bool :=
  (List.range width).map fun i => n.testBit (width - 1 - i)

/-- The number that bits denote, highest first. -/
def ofBits (bs : List Bool) : Nat :=
  bs.foldl (fun n b => 2 * n + b.toNat) 0

/-- The first `count` runs of `size` bits, as numbers. -/
def runs (size : Nat) : (count : Nat) → List Bool → List Nat
  | 0, _ => []
  | count + 1, bs => ofBits (bs.take size) :: runs size count (bs.drop size)

/-- The groups of bytes. Twenty bytes make exactly thirty-two. -/
def groupsOf (bytes : List UInt8) : List Group :=
  let bs := bytes.flatMap fun b => bits 8 b.toNat
  (runs 5 (bs.length / 5) bs).map (BitVec.ofNat 5)

/-- The bytes of groups; what is left over must be fewer than five bits, all zero. -/
def bytesOf (groups : List Group) : Except Error (List UInt8) :=
  let bs := groups.flatMap fun g => bits 5 g.toNat
  let rest := bs.drop (bs.length / 8 * 8)
  if 5 ≤ rest.length ∨ rest.any id then .error .padding
  else .ok ((runs 8 (bs.length / 8) bs).map UInt8.ofNat)

end TokenBridge.Bech32
