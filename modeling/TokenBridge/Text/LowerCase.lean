/-
What becomes of a text that is put into lower case.

Account addresses have one spelling, the lower-case one, so the bridge asks
of a character whether its lower-case form (in the full mapping of Unicode
17) is something else, and how many bytes that form takes. The characters
that change come in two kinds of run: blocks in which every one changes, and
blocks in which upper and lower case alternate, so that every second one
does. Few of them change their size.
-/

namespace TokenBridge.Text

/-- First and last character of the blocks in which every character changes. -/
def solidRuns : List (Nat × Nat) :=
  [ (0x41, 0x5a), (0xc0, 0xd6), (0xd8, 0xde), (0x181, 0x182), (0x18a, 0x18b), (0x18e, 0x191),
    (0x193, 0x194), (0x196, 0x198), (0x19c, 0x19d), (0x19f, 0x1a0), (0x1b2, 0x1b3), (0x1b8, 0x1b8),
    (0x1bc, 0x1bc), (0x1c4, 0x1c5), (0x1c7, 0x1c8), (0x1ca, 0x1cb), (0x1f1, 0x1f2), (0x1f7, 0x1f8),
    (0x23a, 0x23b), (0x23d, 0x23e), (0x244, 0x246), (0x376, 0x376), (0x37f, 0x37f), (0x389, 0x38a),
    (0x392, 0x3a1), (0x3a3, 0x3ab), (0x3cf, 0x3cf), (0x3f4, 0x3f4), (0x3fa, 0x3fa), (0x3fd, 0x42f),
    (0x531, 0x556), (0x10a0, 0x10c5), (0x10c7, 0x10c7), (0x10cd, 0x10cd), (0x13a0, 0x13f5),
    (0x1c89, 0x1c89), (0x1c90, 0x1cba), (0x1cbd, 0x1cbf), (0x1f08, 0x1f0f), (0x1f18, 0x1f1d),
    (0x1f28, 0x1f2f), (0x1f38, 0x1f3f), (0x1f48, 0x1f4d), (0x1f68, 0x1f6f), (0x1f88, 0x1f8f),
    (0x1f98, 0x1f9f), (0x1fa8, 0x1faf), (0x1fb8, 0x1fbc), (0x1fc8, 0x1fcc), (0x1fd8, 0x1fdb),
    (0x1fe8, 0x1fec), (0x1ff8, 0x1ffc), (0x2126, 0x2126), (0x212a, 0x212b), (0x2132, 0x2132),
    (0x2160, 0x216f), (0x2183, 0x2183), (0x24b6, 0x24cf), (0x2c00, 0x2c2f), (0x2c63, 0x2c64),
    (0x2c6e, 0x2c70), (0x2c72, 0x2c72), (0x2c75, 0x2c75), (0x2c7e, 0x2c80), (0x2cf2, 0x2cf2),
    (0xa7ab, 0xa7ae), (0xa7b0, 0xa7b4), (0xa7c5, 0xa7c7), (0xa7f5, 0xa7f5), (0xff21, 0xff3a),
    (0x10400, 0x10427), (0x104b0, 0x104d3), (0x10570, 0x1057a), (0x1057c, 0x1058a),
    (0x1058c, 0x10592), (0x10594, 0x10595), (0x10c80, 0x10cb2), (0x10d50, 0x10d65),
    (0x118a0, 0x118bf), (0x16e40, 0x16e5f), (0x16ea0, 0x16eb8), (0x1e900, 0x1e921) ]

/-- First and last of the characters that change in the blocks in which every second one does. -/
def alternatingRuns : List (Nat × Nat) :=
  [ (0x100, 0x136), (0x139, 0x147), (0x14a, 0x178), (0x179, 0x17d), (0x184, 0x186), (0x187, 0x189),
    (0x1a2, 0x1a6), (0x1a7, 0x1a9), (0x1ac, 0x1ae), (0x1af, 0x1b1), (0x1b5, 0x1b7), (0x1cd, 0x1db),
    (0x1de, 0x1ee), (0x1f4, 0x1f6), (0x1fa, 0x232), (0x241, 0x243), (0x248, 0x24e), (0x370, 0x372),
    (0x386, 0x388), (0x38c, 0x38e), (0x38f, 0x391), (0x3d8, 0x3ee), (0x3f7, 0x3f9), (0x460, 0x480),
    (0x48a, 0x4c0), (0x4c1, 0x4cd), (0x4d0, 0x52e), (0x1e00, 0x1e94), (0x1e9e, 0x1efe),
    (0x1f59, 0x1f5f), (0x2c60, 0x2c62), (0x2c67, 0x2c6d), (0x2c82, 0x2ce2), (0x2ceb, 0x2ced),
    (0xa640, 0xa66c), (0xa680, 0xa69a), (0xa722, 0xa72e), (0xa732, 0xa76e), (0xa779, 0xa77d),
    (0xa77e, 0xa786), (0xa78b, 0xa78d), (0xa790, 0xa792), (0xa796, 0xa7aa), (0xa7b6, 0xa7c4),
    (0xa7c9, 0xa7cb), (0xa7cc, 0xa7dc) ]

/-- Lower case turns this character into something else. -/
def changesInLowerCase (c : Char) : Bool :=
  let n := c.toNat
  solidRuns.any (fun run => decide (run.1 ≤ n ∧ n ≤ run.2)) ||
    alternatingRuns.any fun run => decide (run.1 ≤ n ∧ n ≤ run.2 ∧ (n - run.1) % 2 = 0)

/-- No character of the text has another lower-case form. -/
def isLowerCase (text : String) : Bool :=
  !text.toList.any changesInLowerCase

/-- The characters whose lower-case form has another size, with the size of each character of it. -/
def resizedInLowerCase : List (Nat × List Nat) :=
  [ (0x130, [1, 2]), (0x23a, [3]), (0x23e, [3]), (0x1e9e, [2]), (0x2126, [2]), (0x212a, [1]),
    (0x212b, [2]), (0x2c62, [2]), (0x2c64, [2]), (0x2c6d, [2]), (0x2c6e, [2]), (0x2c6f, [2]),
    (0x2c70, [2]), (0x2c7e, [2]), (0x2c7f, [2]), (0xa78d, [2]), (0xa7aa, [2]), (0xa7ab, [2]),
    (0xa7ac, [2]), (0xa7ad, [2]), (0xa7ae, [2]), (0xa7b0, [2]), (0xa7b1, [2]), (0xa7b2, [2]),
    (0xa7c5, [2]), (0xa7cb, [2]), (0xa7dc, [2]) ]

/-- The bytes in UTF-8 of each character of a character's lower-case form. -/
def lowerCaseSizes (c : Char) : List Nat :=
  (resizedInLowerCase.lookup c.toNat).getD [c.utf8Size]

example : changesInLowerCase 'A' = true ∧ changesInLowerCase 'z' = false := by decide
example : changesInLowerCase 'É' = true ∧ changesInLowerCase 'é' = false := by decide
example : lowerCaseSizes 'İ' = [1, 2] ∧ lowerCaseSizes 'é' = [2] := by decide

end TokenBridge.Text
