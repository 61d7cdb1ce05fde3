/-
What accounts hold, as the chain reports it.

The bridge never moves a balance itself; it sends messages and asks for
balances. Native coins are kept by the chain and every question about them
has an answer. A token contract keeps its own balances: it may not exist,
may refuse to answer, or may answer with something that cannot be read.
-/
import TokenBridge.Amount
import TokenBridge.Table

namespace TokenBridge

/-- An account or a contract on this chain, by its text. -/
abbrev Address := String

/-- Why the chain refused or could not answer. -/
inductive HostError
  | addressTooShort
  | addressTooLong
  | addressNotNormalized
  /-- The lower-case form of an address, cut to the longest length, ends inside a character; so many
  bytes stand before it. -/
  | addressCut (index : Nat)
  | noSuchContract (contract : Address)
  | contractFailed (reason : String)
  /-- A field of a question has not the size it must have. -/
  | fieldLength (field : String) (expected found : Nat)
  | sumTooLarge (a b : Amount)
  /-- Something was asked for that was never stored. -/
  | notStored
  /-- A message or an answer that cannot be read. -/
  | unreadable
deriving DecidableEq

/-- The words of a refusal; two causes have none. -/
def HostError.message : HostError → Option String
  | .addressTooShort =>
    some "Generic error: Invalid input: human address too short for this mock implementation (must be >= 3)."
  | .addressTooLong =>
    some "Generic error: Invalid input: human address too long for this mock implementation (must be <= 90)."
  | .addressNotNormalized => some "Generic error: Invalid input: address not normalized"
  | .addressCut index =>
    some s!"Cannot decode UTF8 bytes into string: incomplete utf-8 byte sequence from index {index}"
  | .noSuchContract contract =>
    some s!"Generic error: Querier system error: No such contract: {contract}"
  | .contractFailed reason => some s!"Generic error: Querier contract error: {reason}"
  | .fieldLength field expected found =>
    some s!"Generic error: {field} must be {expected} bytes, got {found}"
  | .sumTooLarge a b => some s!"Overflow: Cannot Add with {a.toText} and {b.toText}"
  | .notStored => none
  | .unreadable => none

/-- What a token contract does when it is asked for a balance. -/
inductive TokenContract
  | answers (balances : Table Address Amount)
  | fails (reason : String)
  | garbled
deriving DecidableEq

/-- Native coins by account and denomination, and the token contracts. -/
structure Bank where
  coins : Table (Address × String) Amount
  contracts : Table Address TokenContract
deriving DecidableEq

namespace Bank

def empty : Bank := ⟨Table.empty, Table.empty⟩

/-- How much of a native coin an account holds. -/
def coinBalance (b : Bank) (account : Address) (denom : String) : Amount :=
  (b.coins.get? (account, denom)).getD Amount.zero

/-- What a token contract answers when asked how much an account holds. -/
def tokenBalance (b : Bank) (contract account : Address) : Except HostError Amount :=
  match b.contracts.get? contract with
  | none => .error (.noSuchContract contract)
  | some (.answers balances) => .ok ((balances.get? account).getD Amount.zero)
  | some (.fails reason) => .error (.contractFailed reason)
  | some .garbled => .error .unreadable

def setCoins (b : Bank) (account : Address) (denom : String) (amount : Amount) : Bank :=
  { b with coins := b.coins.insert (account, denom) amount }

/-- The balances of a contract that answers; none of any other. -/
def balancesOf (b : Bank) (contract : Address) : Table Address Amount :=
  match b.contracts.get? contract with
  | some (.answers balances) => balances
  | _ => Table.empty

/-- Makes a token contract answer, keeping the balances it answered with before. -/
def openContract (b : Bank) (contract : Address) : Bank :=
  { b with contracts := b.contracts.insert contract (.answers (b.balancesOf contract)) }

/-- Makes a token contract answer, with this balance for an account. -/
def setTokens (b : Bank) (contract account : Address) (amount : Amount) : Bank :=
  { b with contracts :=
      b.contracts.insert contract (.answers ((b.balancesOf contract).insert account amount)) }

def breakContract (b : Bank) (contract : Address) (reason : String) : Bank :=
  { b with contracts := b.contracts.insert contract (.fails reason) }

def garbleContract (b : Bank) (contract : Address) : Bank :=
  { b with contracts := b.contracts.insert contract .garbled }

end Bank

end TokenBridge
