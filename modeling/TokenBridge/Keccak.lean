/-
The hash of the bridge: 256-bit Keccak with the padding byte 01.

The state is twenty-five 64-bit lanes; lane (x, y) of the five by five
sheet stands at index x + 5·y. One round mixes the columns (theta), turns
and moves the lanes (rho and pi), combines each row (chi) and adds a round
constant (iota). A message is cut into blocks of 136 bytes, the last one
padded; each block is added to the first seventeen lanes and the state
permuted. The digest is the first four lanes. Lanes are little-endian.
-/
import TokenBridge.Bytes

namespace TokenBridge.Keccak

-- ========================================================== the permutation

/-- Five by five lanes of sixty-four bits, row after row. -/
abbrev State := Vector UInt64 25

/-- A lane turned left by some bits, fewer than sixty-four. -/
def turn (lane : UInt64) (bits : Nat) : UInt64 :=
  if bits = 0 then lane
  else (lane <<< UInt64.ofNat bits) ||| (lane >>> UInt64.ofNat (64 - bits))

/-- By how many bits each lane is turned. -/
def turns : Vector Nat 25 := #v[
  0, 1, 62, 28, 27,
  36, 44, 6, 55, 20,
  3, 10, 43, 25, 39,
  41, 45, 15, 21, 8,
  18, 2, 61, 56, 14]

/-- What each round adds to the first lane. -/
def roundConstants : List UInt64 :=
  [0x0000000000000001, 0x0000000000008082, 0x800000000000808a, 0x8000000080008000,
   0x000000000000808b, 0x0000000080000001, 0x8000000080008081, 0x8000000000008009,
   0x000000000000008a, 0x0000000000000088, 0x0000000080008009, 0x000000008000000a,
   0x000000008000808b, 0x800000000000008b, 0x8000000000008089, 0x8000000000008003,
   0x8000000000008002, 0x8000000000000080, 0x000000000000800a, 0x800000008000000a,
   0x8000000080008081, 0x8000000000008080, 0x0000000080000001, 0x8000000080008008]

/-- Adds to each lane the parity of the columns on both sides of it. -/
def theta (a : State) : State :=
  let parity : Vector UInt64 5 := Vector.ofFn fun (x : Fin 5) =>
    a[x.val] ^^^ a[x.val + 5] ^^^ a[x.val + 10] ^^^ a[x.val + 15] ^^^ a[x.val + 20]
  Vector.ofFn fun (i : Fin 25) =>
    a.get i ^^^ parity.get ⟨(i.val + 4) % 5, by omega⟩ ^^^
      turn (parity.get ⟨(i.val + 1) % 5, by omega⟩) 1

/-- Turns each lane and moves lane (x, y) to (y, 2x + 3y). -/
def rhoPi (a : State) : State :=
  Vector.ofFn fun (i : Fin 25) =>
    let source : Fin 25 := ⟨(i.val % 5 + 3 * (i.val / 5)) % 5 + 5 * (i.val % 5), by omega⟩
    turn (a.get source) (turns.get source)

/-- Combines each lane with the next two of its row. -/
def chi (a : State) : State :=
  Vector.ofFn fun (i : Fin 25) =>
    let next : Fin 25 := ⟨5 * (i.val / 5) + (i.val + 1) % 5, by omega⟩
    let afterNext : Fin 25 := ⟨5 * (i.val / 5) + (i.val + 2) % 5, by omega⟩
    a.get i ^^^ (~~~a.get next &&& a.get afterNext)

/-- One round: the four mixing steps, then the constant of the round into the
first lane. -/
def round (a : State) (constant : UInt64) : State :=
  let b := chi (rhoPi (theta a))
  b.set 0 (b[0] ^^^ constant)

/-- All rounds, in the order of their constants. -/
def permute (a : State) : State := roundConstants.foldl round a

-- =============================================================== the sponge

/-- Bytes in a block. -/
def rate : Nat := 136

/-- A message filled up to whole blocks. -/
def pad (message : List UInt8) : List UInt8 :=
  let gap := rate - message.length % rate
  if gap = 1 then message ++ [0x81]
  else message ++ 0x01 :: List.replicate (gap - 2) 0 ++ [0x80]

/-- A lane from its bytes, lowest first. -/
def laneOf (bytes : List UInt8) : UInt64 :=
  bytes.foldr (fun b lane => lane <<< 8 ||| b.toUInt64) 0

/-- The bytes of a lane, lowest first. -/
def laneBytes (lane : UInt64) : List UInt8 :=
  (List.range 8).map fun i => (lane >>> UInt64.ofNat (8 * i)).toUInt8

/-- The first lanes of a block, as many as asked for. -/
def lanesOf : Nat → List UInt8 → List UInt64
  | 0, _ => []
  | count + 1, bytes => laneOf (bytes.take 8) :: lanesOf count (bytes.drop 8)

/-- Adds a block to the first lanes. -/
def addBlock (a : State) (block : List UInt8) : State :=
  let lanes := lanesOf (rate / 8) block
  Vector.ofFn fun (i : Fin 25) => a.get i ^^^ lanes.getD i.val 0

/-- Takes in so many blocks of a message. -/
def absorb : Nat → List UInt8 → State → State
  | 0, _, a => a
  | count + 1, bytes, a => absorb count (bytes.drop rate) (permute (addBlock a (bytes.take rate)))

/-- The first four lanes, as bytes. -/
def digest (a : State) : List UInt8 :=
  laneBytes a[0] ++ laneBytes a[1] ++ laneBytes a[2] ++ laneBytes a[3]

/-- Four lanes of eight bytes each. -/
theorem length_digest (a : State) : (digest a).length = 32 := by
  simp [digest, laneBytes]

end Keccak

/-- The 256-bit Keccak hash of some bytes. -/
def keccak256 (message : List UInt8) : Word :=
  let padded := Keccak.pad message
  let a := Keccak.absorb (padded.length / Keccak.rate) padded (Vector.replicate 25 0)
  ⟨Keccak.digest a, Keccak.length_digest a⟩

end TokenBridge
