/-
Accounts as every chain sees them.

An account of any chain family is one word: four bytes that name the
family, the twenty bytes of the address, and eight bytes kept for later
use. Splitting a word never fails and loses nothing. What a chain accepts
is narrower: the family must not be zero and the reserved bytes must be.
Two families have addresses of their own spelling, hexadecimal for EVM
chains and bech32 for Cosmos chains.
-/
import TokenBridge.Bytes
import TokenBridge.Codec.Hex
import TokenBridge.Codec.Bech32

namespace TokenBridge

/-- Why an account or an address was refused. -/
inductive AccountError
  | chainType (found : UInt32)
  | reservedNotZero
  | evmAddress (text : String)
  | bech32 (cause : Bech32.Error)
  | rawLength (found : Nat)
deriving DecidableEq

def AccountError.message : AccountError → String
  | .chainType found => s!"Invalid chain type: {found.toNat}"
  | .reservedNotZero => "Non-zero reserved bytes"
  | .evmAddress text => s!"Invalid EVM address: {text}"
  | .bech32 cause => s!"Invalid bech32 address: {cause.message}"
  | .rawLength found => s!"Expected 20 raw address bytes, got {found}"

/-- A chain family, an address in it, and the bytes kept for later use. -/
structure Account where
  chainType : UInt32
  raw : Bytes 20
  reserved : Bytes 8
deriving DecidableEq

namespace Account

-- ========================================================== chain families

def evm : UInt32 := 1
def cosmos : UInt32 := 2
def solana : UInt32 := 3
def bitcoin : UInt32 := 4

/-- The families that have a meaning. -/
def isKnownChainType (chainType : UInt32) : Bool :=
  chainType ∈ [evm, cosmos, solana, bitcoin]

def isEvm (a : Account) : Bool := a.chainType = evm
def isCosmos (a : Account) : Bool := a.chainType = cosmos

-- ============================================================ building, words

/-- An account of a family that is not zero. -/
def make (chainType : UInt32) (raw : Bytes 20) (reserved : Bytes 8) : Except AccountError Account :=
  if chainType = 0 then .error (.chainType 0) else .ok ⟨chainType, raw, reserved⟩

/-- An account with nothing in the reserved bytes. -/
def new (chainType : UInt32) (raw : Bytes 20) : Except AccountError Account :=
  make chainType raw (Bytes.zero 8)

def toWord (a : Account) : Word :=
  ((Bytes.ofNat 4 a.chainType.toNat).append a.raw).append a.reserved

/-- The account a word denotes, whatever the word. -/
def ofWord (w : Word) : Account where
  chainType := UInt32.ofNat (w.extract 0 4 (by decide)).toNat
  raw := w.extract 4 20 (by decide)
  reserved := w.extract 24 8 (by decide)

/-- The word of a new account. -/
def encode (chainType : UInt32) (raw : Bytes 20) : Except AccountError Word :=
  (new chainType raw).map toWord

/-- The word of an account with reserved bytes. -/
def encodeReserved (chainType : UInt32) (raw : Bytes 20) (reserved : Bytes 8) :
    Except AccountError Word :=
  (make chainType raw reserved).map toWord

/-- The account of a word that a chain accepts. -/
def ofWordStrict (w : Word) : Except AccountError Account :=
  let a := ofWord w
  if a.chainType = 0 then .error (.chainType 0)
  else if a.reserved ≠ Bytes.zero 8 then .error .reservedNotZero
  else .ok a

/-- The account of a word that a chain of one family accepts. -/
def ofWordAs (w : Word) (expected : UInt32) : Except AccountError Account :=
  match ofWordStrict w with
  | .error e => .error e
  | .ok a => if a.chainType ≠ expected then .error (.chainType a.chainType) else .ok a

-- ============================================================ EVM addresses

/-- The bytes of forty hexadecimal digits, after "0x" or bare. -/
def readEvmAddress (text : String) : Except AccountError (Bytes 20) :=
  match Bytes.ofHex 20 text with
  | .ok raw => .ok raw
  | .error _ => .error (.evmAddress text)

def ofEvmAddress (text : String) : Except AccountError Account :=
  match readEvmAddress text with
  | .ok raw => new evm raw
  | .error e => .error e

def toEvmAddress (a : Account) : Except AccountError String :=
  if a.chainType ≠ evm then .error (.chainType a.chainType) else .ok a.raw.toHex

-- ========================================================= Cosmos addresses

/-- The twenty bytes of a bech32 address under any readable part. -/
def readBech32Address (text : String) : Except AccountError (Bytes 20) :=
  match Bech32.decode text with
  | .error e => .error (.bech32 e)
  | .ok groups =>
    match Bech32.bytesOf groups with
    | .error e => .error (.bech32 e)
    | .ok bytes =>
      match Bytes.ofList? 20 bytes with
      | none => .error (.rawLength bytes.length)
      | some raw => .ok raw

def writeBech32Address (raw : Bytes 20) (readable : String) : Except AccountError String :=
  match Bech32.encode readable (Bech32.groupsOf raw.toList) with
  | .ok text => .ok text
  | .error e => .error (.bech32 e)

def ofCosmosAddress (text : String) : Except AccountError Account :=
  match readBech32Address text with
  | .ok raw => new cosmos raw
  | .error e => .error e

def toCosmosAddress (a : Account) (readable : String) : Except AccountError String :=
  if a.chainType ≠ cosmos then .error (.chainType a.chainType)
  else writeBech32Address a.raw readable

end Account

end TokenBridge
