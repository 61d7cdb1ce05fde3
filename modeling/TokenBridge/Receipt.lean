/-
What a handled message leaves behind: attributes for those who watch the
chain, and messages the bridge sends on.

A message goes out plainly, or is awaited: the host reports back how it
went, and the bridge checks the balances then. Only token movements are
awaited.
-/
import TokenBridge.Amount
import TokenBridge.Bank

namespace TokenBridge

structure Coin where
  denom : String
  amount : Amount
deriving DecidableEq

/-- What the bridge asks of a token contract. -/
inductive TokenCall
  | transfer (recipient : Address) (amount : Amount)
  | transferFrom (owner recipient : Address) (amount : Amount)
  | burnFrom (owner : Address) (amount : Amount)
  | mint (recipient : Address) (amount : Amount)
deriving DecidableEq

/-- A message of the bridge to the rest of the chain. -/
inductive Outgoing
  | send (recipient : Address) (coins : List Coin)
  | call (contract : Address) (request : TokenCall)
deriving DecidableEq

/-- How a message goes out. -/
inductive Dispatch
  | plain (message : Outgoing)
  | awaited (message : Outgoing)
deriving DecidableEq

def Dispatch.message : Dispatch → Outgoing
  | .plain m => m
  | .awaited m => m

def Dispatch.isAwaited : Dispatch → Bool
  | .plain _ => false
  | .awaited _ => true

structure Receipt where
  attributes : List (String × String)
  messages : List Dispatch
deriving DecidableEq

/-- A receipt with attributes only. -/
def Receipt.note (attributes : List (String × String)) : Receipt := ⟨attributes, []⟩

/-- Coins of one denomination. -/
def coins (amount : Amount) (denom : String) : List Coin := [⟨denom, amount⟩]

end TokenBridge
