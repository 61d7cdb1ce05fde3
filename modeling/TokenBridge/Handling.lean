/-
Which rule handles which message.

Whatever the message, none is taken while a token movement is in flight.
-/
import TokenBridge.Administration
import TokenBridge.Depositing
import TokenBridge.Payout

namespace TokenBridge

/-- Hands a request of a sender, with the coins attached to it, to its rule. -/
def Bridge.handle (b : Bridge) (c : Context) (sender : Address) (funds : List Coin) :
    Request → Outcome (Receipt × Bridge)
  | .depositNative destChain destAccount => b.depositNative c sender funds destChain destAccount
  | .depositToken token amount destChain destAccount =>
    b.depositContractToken c sender funds .lockUnlock token amount destChain destAccount
  | .depositMintable token amount destChain destAccount =>
    b.depositContractToken c sender funds .mintBurn token amount destChain destAccount
  | .submit s => b.submit c funds s
  | .approve hash fee => b.approve c sender hash fee
  | .cancel hash => b.cancel c sender hash
  | .uncancel hash => b.uncancel c sender hash
  | .executeUnlock hash => b.execute c funds .lockUnlock hash
  | .executeMint hash => b.execute c funds .mintBurn hash
  | .setReviewWindow seconds => b.setReviewWindow sender seconds
  | .addRole role account => b.addRole sender role account
  | .removeRole role account => b.removeRole sender role account
  | .registerChain identifier chain => b.registerChain sender identifier chain
  | .unregisterChain chain => b.unregisterChain sender chain
  | .addToken token isNative kind decimals => b.addToken sender token isNative kind decimals
  | .setTokenEnabled token enabled => b.setTokenEnabled sender token enabled
  | .setCounterpart token destChain destToken destDecimals =>
    b.setCounterpart sender token destChain destToken destDecimals
  | .setFees change => b.setFees sender change
  | .setCustomRate account rate => b.setAccountRate sender account rate
  | .removeCustomRate account => b.removeAccountRate sender account
  | .pause => b.setPaused sender true
  | .unpause => b.setPaused sender false

/-- Takes a request, unless a token movement is in flight. -/
def Bridge.take (b : Bridge) (c : Context) (sender : Address) (funds : List Coin) (r : Request) :
    Outcome (Receipt × Bridge) := do
  b.requireIdle
  b.handle c sender funds r

end TokenBridge
