/-
What the bridge knows of chains and tokens, and who may do what.

A chain has a four-byte name and a readable one, each naming the other. A
token is a native coin or a contract, held by the bridge while it is away
(`lockUnlock`) or burned and minted (`mintBurn`). A counterpart says what a
token is called on another chain and how many decimals it has there. A role
is a set of accounts that remembers the order they were granted it.
-/
import TokenBridge.Bank
import TokenBridge.Bytes

namespace TokenBridge

-- ==================================================================== tokens

/-- What becomes of a token while it is on another chain. -/
inductive TokenKind
  | lockUnlock
  | mintBurn
deriving DecidableEq

def TokenKind.label : TokenKind → String
  | .lockUnlock => "lock_unlock"
  | .mintBurn => "mint_burn"

/-- A token the bridge carries. -/
structure Token where
  /-- The denomination of a native coin, the address of a contract. -/
  id : String
  isNative : Bool
  kind : TokenKind
  decimals : UInt8
  enabled : Bool
deriving DecidableEq

/-- A token as another chain knows it. -/
structure Counterpart where
  token : Word
  decimals : UInt8
deriving DecidableEq

-- ==================================================================== chains

/-- A chain the bridge has dealings with. -/
structure Chain where
  id : ChainId
  identifier : String
  identifierHash : Word
deriving DecidableEq

/-- Why bytes or a text are no name for a chain. -/
inductive ChainIdFault
  | length (found : Nat)
  | zero
  | emptyIdentifier
deriving DecidableEq

def ChainIdFault.message : ChainIdFault → String
  | .length found => s!"expected 4 bytes, got {found}"
  | .zero => "chain id must be non-zero"
  | .emptyIdentifier => "identifier must not be empty"

/-- The chain that bytes name: four of them, not all zero. -/
def ChainId.ofBytes (bytes : List UInt8) : Except ChainIdFault ChainId :=
  match Bytes.ofList? 4 bytes with
  | none => .error (.length bytes.length)
  | some chain => if chain = Bytes.zero 4 then .error .zero else .ok chain

-- ===================================================================== roles

inductive Role
  | operator
  | canceler
deriving DecidableEq

def Role.label : Role → String
  | .operator => "operator"
  | .canceler => "canceler"

/-- The accounts with a role. Every grant takes the next place, and places are not used again, so
the accounts by ascending place stand in the order they were granted the role. -/
structure RoleSet where
  /-- The place of each account. -/
  places : Table Address UInt64
  /-- The account at each place. -/
  order : Table UInt64 Address
  /-- The place of the next grant. -/
  next : UInt64
deriving DecidableEq

namespace RoleSet

def empty : RoleSet := ⟨Table.empty, Table.empty, 0⟩

def contains (r : RoleSet) (a : Address) : Bool := r.places.contains a

/-- The accounts in the order they were granted the role. -/
def members (r : RoleSet) : List Address := r.order.values

/-- The role with one more account at the end, while there are places left. -/
def grant? (r : RoleSet) (a : Address) : Option RoleSet :=
  if r.next = maxWord64 then none
  else some ⟨r.places.insert a r.next, r.order.insert r.next a, r.next + 1⟩

/-- The role without an account; the others keep their places. -/
def revoke (r : RoleSet) (a : Address) : RoleSet :=
  match r.places.get? a with
  | none => r
  | some place => { r with places := r.places.erase a, order := r.order.erase place }

end RoleSet

end TokenBridge
