/-
The written form of messages to the bridge, and of the records it keeps.

Every reader says `none` where the value is not exactly of the form: a
field too many, one missing, a number out of range, a text that is no
amount. What the fields mean, and whether the bridge accepts them, is
decided later.
-/
import TokenBridge.Message
import TokenBridge.State
import TokenBridge.Wire.Json

namespace TokenBridge.Wire

/-- A kind of token, by its label. -/
def readTokenKind : Json → Option TokenKind
  | .str "lock_unlock" => some .lockUnlock
  | .str "mint_burn" => some .mintBurn
  | _ => none

-- ===================================================================== records

/-- A token, with all its fields. -/
def readToken (j : Json) : Option Token := do
  let fields ← j.record? ["token", "is_native", "token_type", "decimals", "enabled"]
  return {
    id := ← required fields "token" Json.text?
    isNative := ← required fields "is_native" Json.bool?
    kind := ← required fields "token_type" readTokenKind
    decimals := ← required fields "decimals" Json.byte?
    enabled := ← required fields "enabled" Json.bool? }

/-- A kind of movement, by its label. -/
def readMovementKind : Json → Option MovementKind
  | .str "lock" => some .lock
  | .str "unlock" => some .unlock
  | .str "mint" => some .mint
  | .str "burn" => some .burn
  | _ => none

/-- A movement, with the balances before it. -/
def readMovement (j : Json) : Option Movement := do
  let fields ← j.record? ["action", "token", "account", "amount", "this_before", "account_before"]
  return {
    kind := ← required fields "action" readMovementKind
    token := ← required fields "token" readToken
    account := ← required fields "account" Json.text?
    amount := ← required fields "amount" Json.amount?
    thisBefore := ← required fields "this_before" Json.amount?
    accountBefore := ← required fields "account_before" Json.amount? }

-- ====================================================================== set-up

/-- What a bridge is set up with; the rate and the window may be left out. -/
def readSetup (j : Json) : Option Setup := do
  let fields ← j.record? ["admin", "operators", "cancelers", "this_chain_id", "native_denom",
    "fee_recipient", "standard_fee_bps", "cancel_window"]
  return {
    admin := ← required fields "admin" Json.text?
    operators := ← required fields "operators" Json.texts?
    cancelers := ← required fields "cancelers" Json.texts?
    thisChain := ← required fields "this_chain_id" Json.bytes?
    nativeDenom := ← required fields "native_denom" Json.text?
    feeRecipient := ← required fields "fee_recipient" Json.text?
    standardRate := ← optional fields "standard_fee_bps" Json.word64?
    reviewWindow := ← optional fields "cancel_window" Json.word64? }

/-- The message that brings a new version says nothing. -/
def readMigration (j : Json) : Option Unit := (j.record? []).map fun _ => ()

-- ==================================================================== requests

/-- The fee of an approval. -/
def readApprovalFee (j : Json) : Option ApprovalFee := do
  let fields ← j.record? ["amount", "recipient", "deduct_from_amount"]
  return {
    amount := ← required fields "amount" Json.amount?
    recipient := ← required fields "recipient" Json.text?
    deduct := ← required fields "deduct_from_amount" Json.bool? }

/-- A submission. -/
def readSubmission (j : Json) : Option Submission := do
  let fields ← j.record? ["src_chain", "src_account", "token", "recipient", "amount", "nonce",
    "src_decimals"]
  return {
    srcChain := ← required fields "src_chain" Json.bytes?
    srcAccount := ← required fields "src_account" Json.bytes?
    token := ← required fields "token" Json.text?
    recipient := ← required fields "recipient" Json.text?
    amount := ← required fields "amount" Json.amount?
    nonce := ← required fields "nonce" Json.word64?
    srcDecimals := ← required fields "src_decimals" Json.byte? }

/-- A change of fees, each part of which may be left out. -/
def readFeeChange (j : Json) : Option FeeChange := do
  let fields ← j.record? ["standard_fee_bps", "discounted_fee_bps", "cl8y_threshold",
    "cl8y_token", "fee_recipient"]
  return {
    standard := ← optional fields "standard_fee_bps" Json.word64?
    discounted := ← optional fields "discounted_fee_bps" Json.word64?
    threshold := ← optional fields "cl8y_threshold" Json.amount?
    discountToken := ← optional fields "cl8y_token" Json.text?
    recipient := ← optional fields "fee_recipient" Json.text? }

/-- The deposit of a token of a contract. -/
def readTokenDeposit (make : String → Amount → List UInt8 → List UInt8 → Request) (j : Json) :
    Option Request := do
  let fields ← j.record? ["token", "amount", "dest_chain", "dest_account"]
  return make (← required fields "token" Json.text?) (← required fields "amount" Json.amount?)
    (← required fields "dest_chain" Json.bytes?) (← required fields "dest_account" Json.bytes?)

/-- A record with one required field. -/
def readOnly {α β : Type} (name : String) (read : Json → Option α) (make : α → β) (j : Json) :
    Option β := do
  let fields ← j.record? [name]
  return make (← required fields name read)

/-- A record without fields. -/
def readEmpty {β : Type} (value : β) (j : Json) : Option β := (j.record? []).map fun _ => value

/-- A request, by its name. -/
def readRequest (j : Json) : Option Request := do
  let (name, content) ← j.variant?
  match name with
  | "deposit_native" =>
    let fields ← content.record? ["dest_chain", "dest_account"]
    return .depositNative (← required fields "dest_chain" Json.bytes?)
      (← required fields "dest_account" Json.bytes?)
  | "deposit_cw20" => readTokenDeposit .depositToken content
  | "deposit_cw20_mintable" => readTokenDeposit .depositMintable content
  | "withdraw_submit" => (readSubmission content).map .submit
  | "withdraw_approve" =>
    let fields ← content.record? ["withdraw_hash", "fee"]
    return .approve (← required fields "withdraw_hash" Json.bytes?)
      (← optional fields "fee" readApprovalFee)
  | "withdraw_cancel" => readOnly "withdraw_hash" Json.bytes? .cancel content
  | "withdraw_uncancel" => readOnly "withdraw_hash" Json.bytes? .uncancel content
  | "withdraw_execute_unlock" => readOnly "withdraw_hash" Json.bytes? .executeUnlock content
  | "withdraw_execute_mint" => readOnly "withdraw_hash" Json.bytes? .executeMint content
  | "set_cancel_window" => readOnly "seconds" Json.word64? .setReviewWindow content
  | "add_operator" => readOnly "address" Json.text? (.addRole .operator) content
  | "remove_operator" => readOnly "address" Json.text? (.removeRole .operator) content
  | "add_canceler" => readOnly "address" Json.text? (.addRole .canceler) content
  | "remove_canceler" => readOnly "address" Json.text? (.removeRole .canceler) content
  | "register_chain" =>
    let fields ← content.record? ["identifier", "chain_id"]
    return .registerChain (← required fields "identifier" Json.text?)
      (← required fields "chain_id" Json.bytes?)
  | "unregister_chain" => readOnly "chain_id" Json.bytes? .unregisterChain content
  | "add_token" =>
    let fields ← content.record? ["token", "is_native", "token_type", "decimals"]
    return .addToken (← required fields "token" Json.text?)
      (← required fields "is_native" Json.bool?) (← required fields "token_type" readTokenKind)
      (← required fields "decimals" Json.byte?)
  | "set_token_enabled" =>
    let fields ← content.record? ["token", "enabled"]
    return .setTokenEnabled (← required fields "token" Json.text?)
      (← required fields "enabled" Json.bool?)
  | "set_token_destination" =>
    let fields ← content.record? ["token", "dest_chain", "dest_token", "dest_decimals"]
    return .setCounterpart (← required fields "token" Json.text?)
      (← required fields "dest_chain" Json.bytes?) (← required fields "dest_token" Json.bytes?)
      (← required fields "dest_decimals" Json.byte?)
  | "set_fee_params" => (readFeeChange content).map .setFees
  | "set_custom_account_fee" =>
    let fields ← content.record? ["account", "fee_bps"]
    return .setCustomRate (← required fields "account" Json.text?)
      (← required fields "fee_bps" Json.word64?)
  | "remove_custom_account_fee" => readOnly "account" Json.text? .removeCustomRate content
  | "pause" => readEmpty .pause content
  | "unpause" => readEmpty .unpause content
  | _ => none

-- =================================================================== questions

/-- The fields of a transfer that is to be hashed. -/
def readHashQuestion (j : Json) : Option HashQuestion := do
  let fields ← j.record? ["src_chain", "dest_chain", "src_account", "dest_account", "token",
    "amount", "nonce"]
  return {
    srcChain := ← required fields "src_chain" Json.bytes?
    destChain := ← required fields "dest_chain" Json.bytes?
    srcAccount := ← required fields "src_account" Json.bytes?
    destAccount := ← required fields "dest_account" Json.bytes?
    token := ← required fields "token" Json.bytes?
    amount := ← required fields "amount" Json.amount?
    nonce := ← required fields "nonce" Json.word64? }

/-- A question, by its name. -/
def readQuestion (j : Json) : Option Question := do
  let (name, content) ← j.variant?
  match name with
  | "config" => readEmpty .config content
  | "this_chain_id" => readEmpty .thisChain content
  | "cancel_window" => readEmpty .reviewWindow content
  | "next_deposit_nonce" => readEmpty .nextNonce content
  | "last_deposit_nonce" => readEmpty .lastNonce content
  | "deposit" => readOnly "transfer_hash" Json.bytes? .deposit content
  | "deposit_by_nonce" => readOnly "nonce" Json.word64? .depositByNonce content
  | "pending_withdraw" => readOnly "withdraw_hash" Json.bytes? .withdrawal content
  | "compute_transfer_hash" => (readHashQuestion content).map .transferHash
  | "fee_config" => readEmpty .fees content
  | "account_fee" => readOnly "account" Json.text? .accountRate content
  | "calculate_fee" =>
    let fields ← content.record? ["depositor", "amount"]
    return .quote (← required fields "depositor" Json.text?)
      (← required fields "amount" Json.amount?)
  | "operators" => readEmpty .operators content
  | "cancelers" => readEmpty .cancelers content
  | "chain" => readOnly "chain_id" Json.bytes? .chain content
  | "chains" => readEmpty .chains content
  | "token" => readOnly "token" Json.text? .token content
  | "token_dest_mapping" =>
    let fields ← content.record? ["token", "dest_chain"]
    return .counterpart (← required fields "token" Json.text?)
      (← required fields "dest_chain" Json.bytes?)
  | "locked_balance" => readOnly "token" Json.text? .lockedBalance content
  | _ => none

end TokenBridge.Wire
