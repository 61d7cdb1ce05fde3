/-
A buffer tells what it was made of, and to which family it belongs.

Four families of buffers are hashed: transfers of seven words and of six,
texts, and the keys of chains. The last two are ABI encodings, and what that
is stands here in general (`Abi.encode`): the heads of the values one after
the other, then the tails of those that have one. A text is such a value,
filled up to whole words; its length stands before it, so what was filled
up can be told from what was there.

Between the families the first word decides. It is a chain name with zeros
behind it, or the place where the first tail begins, and this place depends
on the number of heads alone. The six words of the older transfers may
begin with anything; what tells these apart is how many bytes there are.
-/
import TokenBridge.Proofs.Transfer

namespace TokenBridge

-- ============================================================== ABI encoding

namespace Abi

/-- What is encoded: a word, or a text of any length. -/
inductive Value
  | word (w : Word)
  | text (s : String)

/-- Bytes, and zeros after them up to the next whole word. -/
def filled (bytes : List UInt8) : List UInt8 :=
  bytes ++ List.replicate ((32 - bytes.length % 32) % 32) 0

/-- A text stands behind the heads, after its length. -/
def Value.tail : Value → List UInt8
  | .word _ => []
  | .text s => (Word.ofNat (utf8 s).length).toList ++ filled (utf8 s)

/-- A word stands among the heads; for a text there is the place of its
tail. -/
def Value.head (place : Nat) : Value → List UInt8
  | .word w => w.toList
  | .text _ => (Word.ofNat place).toList

/-- The heads of values, the first tail being at a place. -/
def heads : Nat → List Value → List UInt8
  | _, [] => []
  | place, v :: rest => v.head place ++ heads (place + v.tail.length) rest

/-- All heads, each of one word, and all tails after them. -/
def encode (vs : List Value) : List UInt8 :=
  heads (32 * vs.length) vs ++ vs.flatMap Value.tail

end Abi

-- ============================================================= the first word

/-- Equal buffers that begin with a word begin with the same one. -/
theorem word_append_inj {v w : Word} {p q : List UInt8}
    (h : v.toList ++ p = w.toList ++ q) : v = w ∧ p = q := by
  have hlength : v.toList.length = w.toList.length :=
    v.length_toList.trans w.length_toList.symm
  obtain ⟨hfirst, hrest⟩ := List.append_inj h hlength
  exact ⟨Bytes.ext hfirst, hrest⟩

/-- A chain name leaves zeros behind it, and a place in a buffer ends in
another byte. -/
theorem Word.ofChain_ne_ofNat {chain : ChainId} {place : Nat}
    (h : place % 256 ≠ 0) : ofChain chain ≠ ofNat place := by
  intro heq
  have hlast : (chain.toList ++ List.replicate 27 0) ++ [0]
      = bigEndian 31 (place / 256) ++ [UInt8.ofNat place] := by
    rw [List.append_assoc]
    exact congrArg Bytes.toList heq
  have hbyte := List.singleton_inj.mp (List.append_inj' hlast rfl).2
  have hzero := congrArg UInt8.toNat hbyte
  rw [UInt8.toNat_ofNat'] at hzero
  exact h hzero.symm

-- ================================================================== transfers

theorem Transfer.length_preimage (t : Transfer) : t.preimage.length = 224 := by
  simp only [preimage, List.length_append, Bytes.length_toList]

/-- A transfer begins with a chain name, so nothing that begins with a place
has its buffer. -/
theorem Transfer.preimage_ne_of_place (t : Transfer) {place : Nat}
    (h : place % 256 ≠ 0) (rest : List UInt8) :
    t.preimage ≠ (Word.ofNat place).toList ++ rest := by
  intro heq
  simp only [preimage, List.append_assoc] at heq
  exact Word.ofChain_ne_ofNat h (word_append_inj heq).1

theorem LegacyTransfer.length_preimage (t : LegacyTransfer) :
    t.preimage.length = 192 := by
  simp only [preimage, List.length_append, Bytes.length_toList]

/-- Older transfers with the same buffer are the same. -/
theorem LegacyTransfer.preimage_injective {s t : LegacyTransfer}
    (h : s.preimage = t.preimage) : s = t := by
  unfold preimage at h
  obtain ⟨h, hnonce⟩ := append_word_inj h
  obtain ⟨h, hamount⟩ := append_word_inj h
  obtain ⟨h, hdestAccount⟩ := append_word_inj h
  obtain ⟨h, hdestToken⟩ := append_word_inj h
  obtain ⟨h, hdestKey⟩ := append_word_inj h
  have hsrcKey := Bytes.ext h
  have hnonce' := Word.ofNonce_inj hnonce
  have hamount' := Word.ofAmount_inj hamount
  cases s
  cases t
  simp_all only

-- ===================================================================== texts

theorem utf8_injective : Function.Injective utf8 := by
  intro s t h
  rw [← String.toByteArray_inj, ← String.utf8Encode_toList,
    ← String.utf8Encode_toList]
  exact congrArg List.toByteArray h

namespace ChainKey

/-- A text is laid out as the tail of a dynamic ABI value: its length, its
bytes, and zeros up to a whole word. -/
theorem dynamicBytes_eq_tail (s : String) :
    dynamicBytes (utf8 s) = (Abi.Value.text s).tail := by
  have hzeros : ((utf8 s).length + 31) / 32 * 32 - (utf8 s).length
      = (32 - (utf8 s).length % 32) % 32 := by
    omega
  unfold dynamicBytes
  rw [hzeros, List.append_assoc]
  rfl

/-- That is one word, and as many more as its bytes need. -/
theorem length_dynamicBytes (bytes : List UInt8) :
    (dynamicBytes bytes).length = 32 + (bytes.length + 31) / 32 * 32 := by
  unfold dynamicBytes
  rw [List.length_append, List.length_append, List.length_replicate,
    Bytes.length_toList]
  omega

/-- How long the whole is settles the length of the bytes up to one word, and
the word in front of them settles the rest. -/
theorem dynamicBytes_injective : Function.Injective dynamicBytes := by
  intro p q h
  have hlength : p.length = q.length := by
    have hwhole := congrArg List.length h
    rw [length_dynamicBytes, length_dynamicBytes] at hwhole
    have hfront : Word.ofNat p.length = Word.ofNat q.length := by
      simp only [dynamicBytes, List.append_assoc] at h
      exact (word_append_inj h).1
    have hvalue := congrArg (fun w : Word => ofBigEndian w.toList) hfront
    change ofBigEndian (bigEndian 32 _) = ofBigEndian (bigEndian 32 _)
      at hvalue
    rw [ofBigEndian_bigEndian, ofBigEndian_bigEndian] at hvalue
    omega
  unfold dynamicBytes at h
  rw [hlength] at h
  exact (List.append_inj (List.append_cancel_right h) rfl).2

/-- What is hashed of a text is its ABI encoding. -/
theorem textPreimage_eq_encode (text : String) :
    textPreimage text = Abi.encode [.text text] := by
  have hplace : 32 * [Abi.Value.text text].length = 32 := rfl
  unfold textPreimage Abi.encode
  rw [dynamicBytes_eq_tail, hplace]
  simp only [Abi.heads, Abi.Value.head, List.flatMap_cons, List.flatMap_nil,
    List.append_nil]

/-- The offset in front is the same for every text, so the text is left. -/
theorem textPreimage_injective : Function.Injective textPreimage := by
  intro s t h
  obtain ⟨-, htexts⟩ := word_append_inj h
  exact utf8_injective (dynamicBytes_injective htexts)

-- ================================================================= chain keys

/-- What is hashed of a tag and a word is their ABI encoding. -/
theorem taggedPreimage_eq_encode (tag : String) (key : Word) :
    taggedPreimage tag key = Abi.encode [.text tag, .word key] := by
  have hplace : 32 * [Abi.Value.text tag, .word key].length = 64 := rfl
  unfold taggedPreimage Abi.encode
  rw [dynamicBytes_eq_tail, hplace]
  simp only [Abi.heads, Abi.Value.head, Abi.Value.tail, List.flatMap_cons,
    List.flatMap_nil, List.append_nil]

/-- A tag and a word take three words and those of the tag. -/
theorem length_taggedPreimage (tag : String) (key : Word) :
    (taggedPreimage tag key).length
      = 96 + ((utf8 tag).length + 31) / 32 * 32 := by
  unfold taggedPreimage
  rw [List.length_append, List.length_append, length_dynamicBytes,
    Bytes.length_toList, Bytes.length_toList]
  omega

/-- Behind the offset stands the word, and behind it the tag. -/
theorem taggedPreimage_inj {tag tag' : String} {key key' : Word}
    (h : taggedPreimage tag key = taggedPreimage tag' key') :
    tag = tag' ∧ key = key' := by
  simp only [taggedPreimage, List.append_assoc] at h
  obtain ⟨-, hkeys⟩ := word_append_inj h
  obtain ⟨hkey, htags⟩ := word_append_inj hkeys
  exact ⟨utf8_injective (dynamicBytes_injective htags), hkey⟩

/-- Two heads put the first tail elsewhere than one does. -/
theorem taggedPreimage_ne_textPreimage (tag : String) (key : Word)
    (text : String) : taggedPreimage tag key ≠ textPreimage text := by
  intro h
  simp only [taggedPreimage, textPreimage, List.append_assoc] at h
  have hplaces := Word.ofNat_inj (by decide) (by decide)
    (word_append_inj h).1
  exact absurd hplaces (by decide)

/-- A tag of up to two words makes a buffer shorter than six. -/
theorem taggedPreimage_ne_legacy {tag : String} (key : Word)
    (short : (utf8 tag).length ≤ 64) (t : LegacyTransfer) :
    taggedPreimage tag key ≠ t.preimage := by
  intro h
  have hlength := congrArg List.length h
  rw [length_taggedPreimage, t.length_preimage] at hlength
  omega

end ChainKey

-- =========================================================== all of the families

/-- Two different buffers with one hash. -/
def Collide (p q : List UInt8) : Prop :=
  p ≠ q ∧ keccak256 p = keccak256 q

/-- Each buffer determines what it was made of, and those of texts and of the
keys of chains are what ABI encoding makes of them. A transfer never has the
buffer of anything else, nor has the key of a chain, and the keys of the two
kinds of chains never share one. So different transfers with equal hashes, of
whatever version, are a collision of the hash itself. -/
theorem preimages_determined :
    -- the fields of a transfer, and those of an older one
    (∀ t : Transfer, t.preimage.length = 224)
      ∧ (∀ s t : Transfer, s.preimage = t.preimage → s = t)
      ∧ (∀ t : LegacyTransfer, t.preimage.length = 192)
      ∧ (∀ s t : LegacyTransfer, s.preimage = t.preimage → s = t)
      -- a text, and what goes into the key of a chain
      ∧ (∀ text, ChainKey.textPreimage text = Abi.encode [.text text])
      ∧ Function.Injective ChainKey.textPreimage
      ∧ (∀ tag key, ChainKey.taggedPreimage tag key
        = Abi.encode [.text tag, .word key])
      -- a transfer is nothing else
      ∧ (∀ (t : Transfer) (u : LegacyTransfer), t.preimage ≠ u.preimage)
      ∧ (∀ (t : Transfer) text, t.preimage ≠ ChainKey.textPreimage text)
      ∧ (∀ (t : Transfer) tag key,
        t.preimage ≠ ChainKey.taggedPreimage tag key)
      -- nor is the key of a chain
      ∧ (∀ tag key text,
        ChainKey.taggedPreimage tag key ≠ ChainKey.textPreimage text)
      ∧ (∀ chainId (u : LegacyTransfer),
        ChainKey.evmPreimage chainId ≠ u.preimage)
      ∧ (∀ name (u : LegacyTransfer),
        ChainKey.cosmosPreimage name ≠ u.preimage)
      ∧ (∀ chainId name,
        ChainKey.evmPreimage chainId ≠ ChainKey.cosmosPreimage name)
      -- so equal hashes are collisions
      ∧ (∀ s t : Transfer, s ≠ t → s.hash = t.hash →
        Collide s.preimage t.preimage)
      ∧ (∀ (u : LegacyTransfer) (t : Transfer), u.id = t.hash →
        Collide u.preimage t.preimage) := by
  -- the versions differ in length, so they never share a buffer
  have hversions : ∀ (t : Transfer) (u : LegacyTransfer),
      t.preimage ≠ u.preimage := by
    intro t u h
    have hlength := congrArg List.length h
    rw [t.length_preimage, u.length_preimage] at hlength
    omega
  refine ⟨Transfer.length_preimage, fun _ _ => Transfer.preimage_injective,
    LegacyTransfer.length_preimage,
    fun _ _ => LegacyTransfer.preimage_injective,
    ChainKey.textPreimage_eq_encode, ChainKey.textPreimage_injective,
    ChainKey.taggedPreimage_eq_encode, hversions, fun t text => ?text,
    fun t tag key => ?key, ChainKey.taggedPreimage_ne_textPreimage,
    fun chainId u => ?evm, fun name u => ?cosmos, fun chainId name => ?kinds,
    fun s t hne hhash => ?transfers, fun u t hhash => ?versions⟩
  case text => exact t.preimage_ne_of_place (by decide) _
  case key =>
    unfold ChainKey.taggedPreimage
    rw [List.append_assoc]
    exact t.preimage_ne_of_place (by decide) _
  case evm => exact ChainKey.taggedPreimage_ne_legacy _ (by decide) u
  case cosmos => exact ChainKey.taggedPreimage_ne_legacy _ (by decide) u
  case kinds =>
    intro h
    obtain ⟨htags, -⟩ := ChainKey.taggedPreimage_inj h
    exact absurd htags (by decide)
  case transfers => exact ⟨fun h => hne (Transfer.preimage_injective h), hhash⟩
  case versions => exact ⟨fun h => hversions t u h.symm, hhash⟩

end TokenBridge
