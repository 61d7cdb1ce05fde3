/-
The identity of a transfer.

Both ends of a transfer, the deposit on one chain and the withdrawal on the
other, hash the same seven words: the two chain names, the two accounts,
the token as the destination knows it, the amount and the nonce. The hash
is all that ties the two ends together. Transfers recorded before chains
had four-byte names go by an older identity of six words, in which each
chain stands as the hash of an ABI-encoded tag and key.
-/
import TokenBridge.Amount
import TokenBridge.Keccak

namespace TokenBridge

/-- Which identity a recorded transfer goes by. -/
inductive HashVersion
  | legacy
  | unified
deriving DecidableEq

def HashVersion.label : HashVersion → String
  | .legacy => "V1Legacy"
  | .unified => "V2Unified"

/-- How a local token, a coin or a contract, is named in a word. -/
def tokenWord (identifier : String) : Word := keccak256 (utf8 identifier)

-- ================================================================ seven words

/-- A transfer of tokens between two chains. -/
structure Transfer where
  srcChain : ChainId
  destChain : ChainId
  srcAccount : Word
  destAccount : Word
  /-- The token as the destination chain knows it. -/
  token : Word
  amount : Amount
  nonce : UInt64
deriving DecidableEq

/-- The seven words that are hashed. -/
def Transfer.preimage (t : Transfer) : List UInt8 :=
  (Word.ofChain t.srcChain).toList ++ (Word.ofChain t.destChain).toList ++ t.srcAccount.toList ++
    t.destAccount.toList ++ t.token.toList ++ (Word.ofNat t.amount.toNat).toList ++
    (Word.ofNat t.nonce.toNat).toList

def Transfer.hash (t : Transfer) : Word := keccak256 t.preimage

-- ================================================================== six words

/-- A transfer as it was recorded before chains had four-byte names. -/
structure LegacyTransfer where
  srcKey : Word
  destKey : Word
  destToken : Word
  destAccount : Word
  amount : Amount
  nonce : UInt64
deriving DecidableEq

/-- The six words that are hashed. -/
def LegacyTransfer.preimage (t : LegacyTransfer) : List UInt8 :=
  t.srcKey.toList ++ t.destKey.toList ++ t.destToken.toList ++ t.destAccount.toList ++
    (Word.ofNat t.amount.toNat).toList ++ (Word.ofNat t.nonce.toNat).toList

def LegacyTransfer.id (t : LegacyTransfer) : Word := keccak256 t.preimage

namespace ChainKey

/-- A byte string as ABI encoding writes it: its length, then its bytes in whole words. -/
def dynamicBytes (bytes : List UInt8) : List UInt8 :=
  (Word.ofNat bytes.length).toList ++ bytes ++
    List.replicate ((bytes.length + 31) / 32 * 32 - bytes.length) 0

/-- The ABI encoding of a text: where it begins, then the text. -/
def textPreimage (text : String) : List UInt8 :=
  (Word.ofNat 32).toList ++ dynamicBytes (utf8 text)

/-- The ABI encoding of a tag and a word: where the tag begins, the word, then the tag. -/
def taggedPreimage (tag : String) (key : Word) : List UInt8 :=
  (Word.ofNat 64).toList ++ key.toList ++ dynamicBytes (utf8 tag)

/-- What an EVM chain is hashed as: its number under the tag `EVM`. -/
def evmPreimage (chainId : UInt64) : List UInt8 :=
  taggedPreimage "EVM" (Word.ofNat chainId.toNat)

/-- What a Cosmos chain is hashed as: the hash of its name under the tag `COSMW`. -/
def cosmosPreimage (chainId : String) : List UInt8 :=
  taggedPreimage "COSMW" (keccak256 (textPreimage chainId))

def evm (chainId : UInt64) : Word := keccak256 (evmPreimage chainId)

def cosmos (chainId : String) : Word := keccak256 (cosmosPreimage chainId)

end ChainKey

end TokenBridge
