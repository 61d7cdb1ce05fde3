/-
What the chain tells the bridge while it handles a message.

The time of the block, the balances and the bridge's own address come from
outside and do not change while a message is handled. Addresses that a user
wrote are checked by the chain's rule, which knows one spelling only, the
lower-case one; an account of this chain enters a hash as the word of its
bech32 address.
-/
import TokenBridge.Error
import TokenBridge.Text.LowerCase

namespace TokenBridge

structure Context where
  /-- The time of the block, in seconds. -/
  now : UInt64
  bank : Bank
  /-- The address of the bridge. -/
  self : Address

/-- How much of a token an account holds, as the chain or the token contract says. -/
def Context.balance (c : Context) (token : Token) (account : Address) : Outcome Amount :=
  if token.isNative then .ok (c.bank.coinBalance account token.id)
  else Outcome.ofHost (c.bank.tokenBalance token.id account)

/-- The bytes an address has at least. -/
def minAddressLength : Nat := 3

/-- The bytes an address has at most. -/
def maxAddressLength : Nat := 90

/-- Characters, each given by its size and by the bytes that are kept of it, are cut after `room`
bytes: if the cut goes through a character, the bytes that are kept before that one. -/
def cutIndex? : (room : Nat) → List (Nat × Nat) → Option Nat
  | _, [] => none
  | room, (size, kept) :: rest =>
    if size ≤ room then (cutIndex? (room - size) rest).map (kept + ·)
    else if room = 0 then none
    else some 0

/-- Where the chain cuts the lower-case form of a text, which may be longer than the text itself, if
that is inside a character. Zero characters are dropped, but take room. -/
def addressCut? (text : String) : Option Nat :=
  cutIndex? maxAddressLength (text.toList.flatMap fun c =>
    (Text.lowerCaseSizes c).map fun size => (size, if c = '\x00' then 0 else size))

/-- An address as a user wrote it: not too short, not too long, in lower case, and without the zero
character. The chain compares it with its lower-case form, which it must be able to read as far as
that fits. -/
def checkAddress (text : String) : Outcome Address :=
  let length := utf8Length text.toList
  if length < minAddressLength then .error (.host .addressTooShort)
  else if maxAddressLength < length then .error (.host .addressTooLong)
  else match addressCut? text with
    | some index => .error (.host (.addressCut index))
    | none =>
      if !Text.isLowerCase text || text.toList.contains '\x00' then
        .error (.host .addressNotNormalized)
      else .ok text

/-- The word of an account of this chain, which must be a bech32 address. -/
def localAccount (account : Address) : Outcome Word :=
  match Account.ofCosmosAddress account with
  | .ok a => .ok a.toWord
  | .error e => .error (.invalidAddress (.codec e))

end TokenBridge
