/-
The written form of what the bridge answers and sends.

Records become objects with the same field names that messages use; words
and chain names become base64, amounts texts, times and nonces numbers, and
what is not there null.
-/
import TokenBridge.Asking
import TokenBridge.Wire.Json

namespace TokenBridge.Wire

-- ===================================================================== records

/-- A token. -/
def writeToken (t : Token) : Json :=
  .obj [("token", .str t.id), ("is_native", .bool t.isNative), ("token_type", .str t.kind.label),
    ("decimals", .ofByte t.decimals), ("enabled", .bool t.enabled)]

/-- A chain, with the hash of its name. -/
def writeChain (c : Chain) : Json :=
  .obj [("chain_id", .ofBytes c.id.toList), ("identifier", .str c.identifier),
    ("identifier_hash", .ofBytes c.identifierHash.toList)]

/-- The fees. -/
def writeFees (s : Fee.Schedule) : Json :=
  .obj [("standard_fee_bps", .ofWord64 s.standard), ("discounted_fee_bps", .ofWord64 s.discounted),
    ("cl8y_threshold", .ofAmount s.threshold),
    ("cl8y_token", .ofOption .str s.discountToken), ("fee_recipient", .str s.recipient)]

/-- The settings that are told. -/
def writeSettings (s : Settings) : Json :=
  .obj [("admin", .str s.admin), ("paused", .bool s.paused),
    ("this_chain_id", .ofBytes s.thisChain.toList), ("native_denom", .str s.nativeDenom)]

/-- A deposit, under its hash. -/
def writeDeposit (found : Word × Deposit) : Json :=
  let (hash, d) := found
  .obj [("transfer_hash", .ofBytes hash.toList), ("nonce", .ofWord64 d.nonce),
    ("src_account", .ofBytes d.srcAccount.toList), ("dest_chain", .ofBytes d.destChain.toList),
    ("dest_account", .ofBytes d.destAccount.toList), ("dest_token", .ofBytes d.destToken.toList),
    ("token", .str d.token), ("amount", .ofAmount d.amount), ("fee", .ofAmount d.fee),
    ("timestamp", .ofWord64 d.timestamp)]

/-- A withdrawal, with its status. -/
def writeReport (r : WithdrawalReport) : Json :=
  let w := r.withdrawal
  .obj [("withdraw_hash", .ofBytes r.hash.toList), ("src_chain", .ofBytes w.srcChain.toList),
    ("src_account", .ofBytes w.srcAccount.toList), ("dest_account", .ofBytes w.destAccount.toList),
    ("token", .str w.token), ("recipient", .str w.recipient), ("amount", .ofAmount w.amount),
    ("nonce", .ofWord64 w.nonce), ("src_decimals", .ofByte w.srcDecimals),
    ("dest_decimals", .ofByte w.destDecimals), ("operator_gas", .ofAmount w.tip),
    ("fee", .ofAmount w.fee), ("fee_recipient", .ofOption .str w.feeRecipient),
    ("deduct_from_amount", .bool w.deductFee), ("submitted_at", .ofWord64 w.submittedAt),
    ("approved_at", .ofWord64 w.marks.approvedAt), ("approved", .bool w.marks.approved),
    ("cancelled", .bool w.marks.cancelled), ("executed", .bool w.marks.executed),
    ("status", .str r.status.label), ("cancel_window_end", .ofWord64 r.closesAt)]

/-- A movement, with the balances before it. -/
def writeMovement (m : Movement) : Json :=
  .obj [("action", .str m.kind.label), ("token", writeToken m.token), ("account", .str m.account),
    ("amount", .ofAmount m.amount), ("this_before", .ofAmount m.thisBefore),
    ("account_before", .ofAmount m.accountBefore)]

-- ===================================================================== answers

/-- An answer. -/
def writeAnswer : Answer → Json
  | .config settings => writeSettings settings
  | .chainId id => .ofBytes id.toList
  | .window seconds => .obj [("cancel_window_seconds", .ofWord64 seconds)]
  | .nonce n => .obj [("nonce", .ofWord64 n)]
  | .lastNonce n => .obj [("nonce", .ofOption .ofWord64 n)]
  | .deposit found => .ofOption writeDeposit found
  | .withdrawal found => .ofOption writeReport found
  | .hash w => .ofBytes w.toList
  | .fees schedule => writeFees schedule
  | .accountRate account rate source =>
    .obj [("account", .str account), ("fee_bps", .ofWord64 rate), ("fee_type", .str source.label)]
  | .quote depositor amount charge =>
    .obj [("depositor", .str depositor), ("amount", .ofAmount amount),
      ("fee", .ofAmount charge.fee), ("net_amount", .ofAmount charge.net),
      ("fee_bps", .ofWord64 charge.rate), ("fee_type", .str charge.source.label)]
  | .accounts members => .arr (members.map .str)
  | .chain found => .ofOption writeChain found
  | .chains all => .arr (all.map writeChain)
  | .token found => .ofOption writeToken found
  | .counterpart found => .ofOption (fun (token, chain, c) =>
      .obj [("token", .str token), ("dest_chain", .ofBytes chain.toList),
        ("dest_token", .ofBytes c.token.toList), ("dest_decimals", .ofByte c.decimals)]) found
  | .amount a => .ofAmount a

-- ==================================================================== messages

/-- A coin. -/
def writeCoin (c : Coin) : Json := .obj [("denom", .str c.denom), ("amount", .ofAmount c.amount)]

/-- A call on a contract of tokens. -/
def writeTokenCall : TokenCall → Json
  | .transfer recipient amount =>
    .obj [("transfer", .obj [("recipient", .str recipient), ("amount", .ofAmount amount)])]
  | .transferFrom owner recipient amount =>
    .obj [("transfer_from", .obj [("owner", .str owner), ("recipient", .str recipient),
      ("amount", .ofAmount amount)])]
  | .burnFrom owner amount =>
    .obj [("burn_from", .obj [("owner", .str owner), ("amount", .ofAmount amount)])]
  | .mint recipient amount =>
    .obj [("mint", .obj [("recipient", .str recipient), ("amount", .ofAmount amount)])]

/-- What is sent to the host. -/
def writeOutgoing : Outgoing → Json
  | .send recipient coins =>
    .obj [("bank", .obj [("send", .obj [("to_address", .str recipient),
      ("amount", .arr (coins.map writeCoin))])])]
  | .call contract request =>
    .obj [("wasm", .obj [("execute", .obj [("contract_addr", .str contract), ("funds", .arr []),
      ("msg", writeTokenCall request)])])]

/-- An envelope: plain messages have number 0 and no report, awaited ones ask for a report. -/
def writeEnvelope (awaited : Bool) (message : Json) : Json :=
  .obj [("id", .ofWord64 (if awaited then custodyReplyId else 0)),
    ("reply_on", .str (if awaited then "always" else "never")), ("gas_limit", .null),
    ("msg", message)]

/-- What a request leads to: its attributes and messages. -/
def writeReceipt (r : Receipt) : Json :=
  .obj [("attributes", .arr (r.attributes.map fun a => .arr [.str a.1, .str a.2])),
    ("messages", .arr (r.messages.map fun d =>
      writeEnvelope d.isAwaited (writeOutgoing d.message)))]

end TokenBridge.Wire
