/-
Where every coin is.

For each denomination, what the requests that stand have brought in is what
they have sent out, what is locked, and what is held of tips for approvals
to come. There is one equation for each rule, and the run adds them up. A
deposit splits a coin into a fee that is sent and a rest that is locked; a
payout splits what is unlocked between the recipient and the fee; a fee
that the caller pays goes on in full, with what was paid too much; a tip
waits from the submission to the approval.
-/
import TokenBridge.Proofs.Registry

namespace TokenBridge

-- ================================================================= counting

/-- How much of a denomination is among coins. -/
def coinsOf (d : String) (cs : List Coin) : Nat :=
  (cs.map fun coin => if coin.denom = d then coin.amount.toNat else 0).sum

/-- Coins made from an amount carry it in their own denomination only. -/
theorem coinsOf_coins (d : String) (amount : Amount) (denom : String) :
    coinsOf d (coins amount denom)
      = if denom = d then amount.toNat else 0 := by
  unfold coinsOf coins
  rw [List.map_singleton, List.sum_singleton]

/-- Coins that were accepted as the bridge's coin are of that coin only. -/
theorem coinsOf_nativeFunds (d : String) {denom : String}
    {funds : List Coin} {total : Amount}
    (h : nativeFunds denom Amount.zero funds = .ok total) :
    coinsOf d funds = if denom = d then total.toNat else 0 := by
  obtain ⟨hall, hsum⟩ := nativeFunds_eq_ok h
  rw [Amount.toNat_zero, Nat.zero_add] at hsum
  rw [← hsum]
  clear hsum h
  unfold coinsOf
  induction funds with
  | nil => split <;> rfl
  | cons coin rest ih =>
      have hdenom := hall coin List.mem_cons_self
      have hrest := ih fun x hx => hall x (List.mem_cons_of_mem _ hx)
      rw [List.map_cons, List.sum_cons, List.map_cons, List.sum_cons, hrest,
        hdenom]
      by_cases hd : denom = d
      · rw [if_pos hd, if_pos hd, if_pos hd]
      · rw [if_neg hd, if_neg hd, if_neg hd]

/-- How much of a denomination a message sends. -/
def Outgoing.coinsOf (d : String) : Outgoing → Nat
  | .send _ cs => TokenBridge.coinsOf d cs
  | .call _ _ => 0

/-- How much of a denomination messages send, awaited or not. -/
def coinsSent (d : String) (messages : List Dispatch) : Nat :=
  (messages.map fun m => m.message.coinsOf d).sum

/-- What two runs of messages send is what each of them sends. -/
theorem coinsSent_append (d : String) (ms ns : List Dispatch) :
    coinsSent d (ms ++ ns) = coinsSent d ms + coinsSent d ns := by
  unfold coinsSent
  rw [List.map_append, List.sum_append]

theorem coinsSent_singleton (d : String) (m : Dispatch) :
    coinsSent d [m] = m.message.coinsOf d := by
  unfold coinsSent
  rw [List.map_singleton, List.sum_singleton]

/-- What an amount of a token is worth in coins of a denomination. -/
def Token.inCoins (token : Token) (d : String) (amount : Amount) : Nat :=
  if token.isNative = true ∧ token.id = d then amount.toNat else 0

/-- A contract's token never moves as coins. -/
theorem Token.inCoins_of_contract {token : Token} (d : String)
    (amount : Amount) (h : token.isNative = false) :
    token.inCoins d amount = 0 := by
  unfold inCoins
  rw [if_neg]
  rintro ⟨hnative, -⟩
  rw [h] at hnative
  cases hnative

/-- A native token moves as coins of its own denomination. -/
theorem Token.inCoins_of_native {token : Token} (d : String)
    (amount : Amount) (h : token.isNative = true) :
    token.inCoins d amount = if token.id = d then amount.toNat else 0 := by
  unfold inCoins
  by_cases hd : token.id = d
  · rw [if_pos ⟨h, hd⟩, if_pos hd]
  · rw [if_neg fun hboth => hd hboth.2, if_neg hd]

/-- Coins add as the amounts they carry. -/
theorem Token.inCoins_add (token : Token) (d : String) {x y z : Amount}
    (h : x.toNat + y.toNat = z.toNat) :
    token.inCoins d x + token.inCoins d y = token.inCoins d z := by
  unfold inCoins
  split
  · exact h
  · rfl

/-- A zero amount is no coins. -/
theorem Token.inCoins_zero (token : Token) (d : String) {x : Amount}
    (h : x.toNat = 0) : token.inCoins d x = 0 := by
  unfold inCoins
  split
  · exact h
  · rfl

-- ======================================================= what flows in, out

/-- The requests that coins may come with. -/
def Request.takesCoins : Request → Bool
  | .depositNative .. => true
  | .submit .. => true
  | .executeUnlock .. => true
  | .executeMint .. => true
  | _ => false

/-- The coins of a denomination that a taken request brought in. -/
def Taken.received (d : String) (t : Taken) : Nat :=
  if t.request.takesCoins then coinsOf d t.funds else 0

/-- The coins of a denomination that a taken request sent out. -/
def Taken.sent (d : String) (t : Taken) : Nat :=
  coinsSent d t.receipt.messages

-- ============================================================= what is held

/-- A denomination is registered as a coin. -/
def Bridge.isCoin (b : Bridge) (d : String) : Bool :=
  (b.tokens.get? d).any (·.isNative)

/-- The coins that are locked. -/
def Bridge.lockedCoins (b : Bridge) (d : String) : Nat :=
  if b.isCoin d then (b.lockedBalance d).toNat else 0

/-- The tip that waits for an approval. -/
def Withdrawal.waitingTip (w : Withdrawal) : Nat :=
  if w.marks.approved then 0 else w.tip.toNat

/-- The tips that wait for approvals, in the coin of the bridge. -/
def Bridge.waitingTips (b : Bridge) (d : String) : Nat :=
  match b.settings with
  | some s =>
    if s.nativeDenom = d then b.withdrawals.total Withdrawal.waitingTip else 0
  | none => 0

/-- The coins that the bridge must hold. -/
def Bridge.coinsDue (b : Bridge) (d : String) : Nat :=
  b.lockedCoins d + b.waitingTips d

/-- The tips that wait are kept in the native denomination. -/
theorem Bridge.waitingTips_eq {b : Bridge} {s : Settings} (d : String)
    (hs : b.settings = some s) :
    b.waitingTips d = if s.nativeDenom = d then
      b.withdrawals.total Withdrawal.waitingTip else 0 := by
  unfold waitingTips
  rw [hs]

/-- Whether a denomination is locked as coins is its token's own kind. -/
theorem Bridge.isCoin_of_get? {b : Bridge} {d : String} {token : Token}
    (h : b.tokens.get? d = some token) : b.isCoin d = token.isNative := by
  unfold isCoin
  rw [h]
  rfl

/-- Writing the locked balance of a registered token changes the locked
coins by what the balance is worth in them. -/
theorem Bridge.lockedCoins_write {b b' : Bridge} {token : Token}
    {total : Amount} (d : String) (htokens : b'.tokens = b.tokens)
    (hlocked : b'.locked = b.locked.insert token.id total)
    (hfound : b.tokens.get? token.id = some token) :
    b'.lockedCoins d + token.inCoins d (b.lockedBalance token.id)
      = b.lockedCoins d + token.inCoins d total := by
  have hcoin : b'.isCoin d = b.isCoin d := by
    unfold isCoin
    rw [htokens]
  unfold lockedCoins
  rw [hcoin]
  -- the token's own denomination takes the new total; any other keeps its own
  by_cases hd : token.id = d
  · subst hd
    have hbalance : b'.lockedBalance token.id = total := by
      unfold lockedBalance
      rw [hlocked, Table.get?_insert_self]
      rfl
    rw [hbalance, isCoin_of_get? hfound]
    cases hn : token.isNative with
    | true =>
        rw [token.inCoins_of_native _ _ hn, token.inCoins_of_native _ _ hn,
          if_pos rfl, if_pos rfl, if_pos rfl, if_pos rfl, Nat.add_comm]
    | false =>
        rw [token.inCoins_of_contract _ _ hn,
          token.inCoins_of_contract _ _ hn]
        rfl
  · have hbalance : b'.lockedBalance d = b.lockedBalance d := by
      unfold lockedBalance
      rw [hlocked, Table.get?_insert_ne _ hd]
    have hzero : ∀ amount, token.inCoins d amount = 0 := by
      intro amount
      unfold Token.inCoins
      rw [if_neg fun hboth => hd hboth.2]
    rw [hbalance, hzero, hzero]

/-- Locked coins stay what they are when the registry moves: a new token
had nothing locked, and an old one keeps its nature. -/
theorem Bridge.lockedCoins_moved {b b' : Bridge} (d : String)
    (hkept : TokensKept b.tokens b.locked)
    (hm : TokensMoved b.tokens b'.tokens) (hlocked : b'.locked = b.locked) :
    b'.lockedCoins d = b.lockedCoins d := by
  have hbalance : b'.lockedBalance d = b.lockedBalance d := by
    unfold lockedBalance
    rw [hlocked]
  unfold lockedCoins
  rw [hbalance]
  -- a token that is not known has nothing locked, whatever its kind
  cases hd : b.tokens.get? d with
  | none =>
      have hzero : (b.lockedBalance d).toNat = 0 := by
        unfold lockedBalance
        rw [hkept.unlocked hd]
        rfl
      rw [hzero]
      split <;> split <;> rfl
  | some token =>
      obtain ⟨enabled, hafter⟩ := hm.get? hd
      rw [isCoin_of_get? hd, isCoin_of_get? hafter]

-- ============================================================= what is sent

/-- The tip leaves as native coins, and a zero tip sends no message. -/
theorem coinsSent_tipMessages (d : String) (w : Withdrawal)
    (operator : Address) (denom : String) :
    coinsSent d (tipMessages w operator denom)
      = if denom = d then w.tip.toNat else 0 := by
  unfold tipMessages
  cases hz : w.tip.isZero with
  | true =>
      rw [if_pos rfl, Amount.isZero_iff.mp hz]
      split <;> rfl
  | false =>
      rw [if_neg Bool.false_ne_true, coinsSent_singleton]
      exact coinsOf_coins d w.tip denom

/-- Taking custody sends no coins: they came along, or the token is of a
contract. -/
theorem coinsSent_take (d : String) {kind : TokenKind} {c : Context}
    {token : Token} {owner : Address} {amount : Amount}
    {custody : Option Custody}
    (h : Custody.take kind c token owner amount = .ok custody) :
    coinsSent d (custody.toList.map fun x => .awaited x.message) = 0 := by
  rcases Custody.take_message h with ⟨-, rfl⟩ | ⟨-, x, request, rfl, hx⟩
  · rfl
  · show coinsSent d [.awaited x.message] = 0
    rw [coinsSent_singleton, Dispatch.message, hx]
    rfl

/-- The fee of a deposit is sent in full, in the token of the deposit. -/
theorem coinsSent_feeMessage (d : String) (token : Token)
    (depositor recipient : Address) (fee : Amount) :
    coinsSent d (if fee.isZero then []
      else [.plain (feeMessage token depositor recipient fee)])
      = token.inCoins d fee := by
  cases hz : fee.isZero with
  | true =>
      rw [if_pos rfl, token.inCoins_zero d (Amount.isZero_iff.mp hz)]
      rfl
  | false =>
      rw [if_neg Bool.false_ne_true, coinsSent_singleton, Dispatch.message]
      unfold feeMessage
      cases hn : token.isNative with
      | true =>
          rw [token.inCoins_of_native d fee hn, if_pos rfl]
          exact coinsOf_coins d fee token.id
      | false =>
          rw [token.inCoins_of_contract d fee hn, if_neg Bool.false_ne_true]
          rfl

/-- The recipient of a payout is sent what the payout record says. -/
theorem Executed.coinsSent_released {b b' : Bridge} {c : Context}
    {funds : List Coin} {kind : TokenKind} {bytes : List UInt8}
    {receipt : Receipt} (d : String)
    (e : Executed b c funds kind bytes receipt b') :
    coinsSent d e.sent = e.token.inCoins d e.toRecipient := by
  rcases e.released with
    ⟨hzero, hsent, -⟩ | ⟨custody, -, hrelease, hsent, -⟩
  · rw [hsent, e.token.inCoins_zero d hzero]
    rfl
  · obtain ⟨hcontract, hreleased, -⟩ := Custody.release_eq_ok_iff.mp hrelease
    rw [hsent, coinsSent_singleton, Dispatch.message, hreleased]
    rcases Token.releaseMessage_cases hcontract with
      ⟨hn, hmessage⟩ | ⟨hn, request, hmessage⟩
    · rw [hmessage, e.token.inCoins_of_native d _ hn]
      exact coinsOf_coins d e.toRecipient e.token.id
    · rw [hmessage, e.token.inCoins_of_contract d _ hn]
      rfl

/-- A fee that is not nothing is sent if there is somebody to get it. -/
theorem coinsSent_feeMessages (d : String) {recipient : Option Address}
    {paid : List Coin} (h : recipient = none → paid = []) :
    coinsSent d (feeMessages recipient paid) = coinsOf d paid := by
  cases recipient with
  | none => rw [h rfl]; rfl
  | some recipient =>
      cases paid with
      | nil => rfl
      | cons coin rest => exact coinsSent_singleton d _

/-- The fee of a payout: what is deducted, or all that the caller attached.
The two never meet, and either has a recipient. -/
theorem Executed.coinsSent_fee {b b' : Bridge} {c : Context}
    {funds : List Coin} {kind : TokenKind} {bytes : List UInt8}
    {receipt : Receipt} (d : String)
    (e : Executed b c funds kind bytes receipt b')
    (hplaced : FeePlaced b.tokens e.found) :
    coinsSent d (feeMessages e.found.feeRecipient
      (feeCoins e.token e.settings.nativeDenom e.found.deductedFee
        e.attached))
      = e.token.inCoins d e.found.deductedFee
        + if e.settings.nativeDenom = d then e.attached.toNat else 0 := by
  have hzero : ∀ {a : Amount}, a.toNat = 0 → a.isZero = true :=
    fun ha => Amount.isZero_iff.mpr ha
  -- a fee inside the amount leaves in the token; one beside it, as attached
  cases hdeduct : e.found.deductFee with
  | true =>
      have hnative := hplaced.native_of_deducts e.token_eq hdeduct
      have hattached := e.no_fee_due (.inl hdeduct)
      rw [Withdrawal.deductedFee_of_deducts hdeduct, hattached, ite_self,
        Nat.add_zero, e.token.inCoins_of_native d _ hnative]
      unfold feeCoins
      rw [hzero hattached]
      cases hf : e.found.fee.isZero with
      | true =>
          rw [Amount.isZero_iff.mp hf, ite_self]
          exact coinsSent_feeMessages d fun _ => rfl
      | false =>
          rw [Bool.not_false, if_pos rfl, coinsSent_feeMessages d]
          · exact coinsOf_coins d e.found.fee e.token.id
          · intro hnone
            -- a fee without a recipient is no fee
            exact absurd (hplaced.recipient hnone)
              (Amount.isZero_eq_false_iff.mp hf)
  | false =>
      rw [Withdrawal.deductedFee_of_beside hdeduct,
        e.token.inCoins_zero d Amount.toNat_zero, Nat.zero_add]
      unfold feeCoins
      rw [hzero Amount.toNat_zero, Bool.not_true,
        if_neg Bool.false_ne_true]
      cases ha : e.attached.isZero with
      | true =>
          rw [Amount.isZero_iff.mp ha, ite_self]
          exact coinsSent_feeMessages d fun _ => rfl
      | false =>
          rw [Bool.not_false, if_pos rfl, coinsSent_feeMessages d]
          · exact coinsOf_coins d e.attached e.settings.nativeDenom
          · intro hnone
            exact absurd (e.no_fee_due (.inr (hplaced.recipient hnone)))
              (Amount.isZero_eq_false_iff.mp ha)

-- =========================================================== what is locked

/-- A deposit locks its net amount, as far as that is coins. -/
theorem Deposited.lockedCoins {b b' : Bridge} {c : Context}
    {depositor : Address} {token : Token} {amount : Amount}
    {destChain destAccount : List UInt8} {receipt : Receipt} (d : String)
    (e : Deposited b c depositor token amount destChain destAccount receipt b')
    (hkept : TokensKept b.tokens b.locked)
    (hfound : b.tokens.get? token.id = some token) :
    b'.lockedCoins d = b.lockedCoins d + token.inCoins d e.charge.net := by
  have htokens : b'.tokens = b.tokens := by rw [e.after]
  rcases e.locked_eq with ⟨-, total, htotal, hlocked⟩ | ⟨hkind, hlocked⟩
  · have hwrite := Bridge.lockedCoins_write d htokens hlocked hfound
    have hsum := token.inCoins_add d htotal
    omega
  -- a token that is burned is a contract's, and no coin
  · have hcontract : token.isNative = false := by
      cases hn : token.isNative with
      | false => rfl
      | true =>
          rw [hkept.held hfound hn] at hkind
          cases hkind
    rw [token.inCoins_of_contract d _ hcontract, Nat.add_zero]
    exact Bridge.lockedCoins_moved d hkept (by rw [htokens]; exact .same)
      hlocked

/-- A payout unlocks its whole amount, as far as that is coins. -/
theorem Executed.lockedCoins {b b' : Bridge} {c : Context}
    {funds : List Coin} {kind : TokenKind} {bytes : List UInt8}
    {receipt : Receipt} (d : String)
    (e : Executed b c funds kind bytes receipt b')
    (hkept : TokensKept b.tokens b.locked) :
    b'.lockedCoins d + e.token.inCoins d e.payout = b.lockedCoins d := by
  have htokens : b'.tokens = b.tokens := by rw [e.after]
  have hfound := (hkept.get?_of_loadToken e.token_eq).2
  rcases e.locked_eq with ⟨-, left, hleft, hlocked⟩ | ⟨hkind, hlocked⟩
  · have hwrite := Bridge.lockedCoins_write d htokens hlocked hfound
    have hsum := e.token.inCoins_add d hleft
    omega
  -- what is minted is no coin either
  · have hcontract : e.token.isNative = false := by
      cases hn : e.token.isNative with
      | false => rfl
      | true =>
          have hheld := hkept.held hfound hn
          rw [e.kind_eq, hkind] at hheld
          cases hheld
    rw [e.token.inCoins_of_contract d _ hcontract, Nat.add_zero]
    exact Bridge.lockedCoins_moved d hkept (by rw [htokens]; exact .same)
      hlocked

-- ================================================================= the tips

/-- Writing over a withdrawal changes the waiting tips by its own. -/
theorem Bridge.waitingTips_write {b b' : Bridge} {s : Settings} {hash : Word}
    {w w' : Withdrawal} (d : String) (hs : b.settings = some s)
    (hsettings : b'.settings = b.settings)
    (hwritten : b'.withdrawals = b.withdrawals.insert hash w')
    (hfound : b.withdrawals.get? hash = some w) :
    b'.waitingTips d + (if s.nativeDenom = d then w.waitingTip else 0)
      = b.waitingTips d + if s.nativeDenom = d then w'.waitingTip else 0 := by
  rw [waitingTips_eq d hs, waitingTips_eq d (hsettings.trans hs), hwritten]
  split
  · exact Table.total_insert_over Withdrawal.waitingTip w' hfound
  · rfl

/-- A withdrawal that is written with the same tip and as much approval
leaves the waiting tips as they are. -/
theorem Bridge.waitingTips_keep {b b' : Bridge} {s : Settings} {hash : Word}
    {w w' : Withdrawal} (d : String) (hs : b.settings = some s)
    (hsettings : b'.settings = b.settings)
    (hwritten : b'.withdrawals = b.withdrawals.insert hash w')
    (hfound : b.withdrawals.get? hash = some w)
    (hsame : w'.waitingTip = w.waitingTip) :
    b'.waitingTips d = b.waitingTips d := by
  have := waitingTips_write d hs hsettings hwritten hfound
  rw [hsame] at this
  exact Nat.add_right_cancel this

/-- A submission adds its tip to those that wait. -/
theorem Bridge.waitingTips_submit {b b' : Bridge} {s : Settings}
    {hash : Word} {w : Withdrawal} (d : String) (hs : b.settings = some s)
    (hsettings : b'.settings = b.settings)
    (hwritten : b'.withdrawals = b.withdrawals.insert hash w)
    (hfresh : b.withdrawals.get? hash = none) :
    b'.waitingTips d
      = b.waitingTips d + if s.nativeDenom = d then w.waitingTip else 0 := by
  rw [waitingTips_eq d hs, waitingTips_eq d (hsettings.trans hs), hwritten]
  split
  · exact Table.total_insert_absent Withdrawal.waitingTip w hfresh
  · rfl

-- =============================================== the equation, rule by rule

section

variable {b b' : Bridge} {c : Context} {sender : Address}
  {funds : List Coin} {receipt : Receipt} {bytes : List UInt8}

/-- Locked coins stay while the ledger and the tokens stay. -/
theorem Bridge.lockedCoins_same (d : String)
    (hkept : TokensKept b.tokens b.locked) (htokens : b'.tokens = b.tokens)
    (hlocked : b'.locked = b.locked) : b'.lockedCoins d = b.lockedCoins d :=
  lockedCoins_moved d hkept (by rw [htokens]; exact .same) hlocked

/-- A deposit keeps the books: what it locks and sends is what it brought. -/
theorem Deposited.coinsDue {token : Token} {amount : Amount}
    {destChain destAccount : List UInt8} (d : String)
    (e : Deposited b c sender token amount destChain destAccount receipt b')
    (hkept : TokensKept b.tokens b.locked)
    (hfound : b.tokens.get? token.id = some token) :
    b'.coinsDue d + coinsSent d receipt.messages
      = b.coinsDue d + token.inCoins d amount := by
  have hlock := e.lockedCoins d hkept hfound
  have htips : b'.waitingTips d = b.waitingTips d := by
    rw [e.after]
    rfl
  have hsplit := token.inCoins_add d
    (Bridge.charge_eq_ok e.charge_eq).2.2
  rw [e.messages, coinsSent_append, coinsSent_take d e.custody_eq,
    coinsSent_feeMessage]
  unfold Bridge.coinsDue
  omega

/-- A submission keeps the books: its funds are the tip that now waits. -/
theorem Submitted.coinsDue {s : Submission} (d : String)
    (e : Submitted b c funds s receipt b')
    (hkept : TokensKept b.tokens b.locked) :
    b'.coinsDue d + coinsSent d receipt.messages
      = b.coinsDue d + coinsOf d funds := by
  have hlock : b'.lockedCoins d = b.lockedCoins d :=
    Bridge.lockedCoins_same d hkept (by rw [e.after]) (by rw [e.after])
  have hsettings : b'.settings = b.settings := by rw [e.after]
  have htips := Bridge.waitingTips_submit d e.settings_eq hsettings
    (congrArg Bridge.withdrawals e.after :) e.fresh
  have hwaiting : e.record.waitingTip = e.record.tip.toNat := by
    rw [e.record_eq]
    rfl
  rw [e.messages, coinsOf_nativeFunds d e.tip_eq]
  rw [hwaiting] at htips
  show b'.coinsDue d + 0 = _
  unfold Bridge.coinsDue
  omega

/-- An approval keeps the books: the tip it sends is one that waited. -/
theorem Approved.coinsDue {fee : Option ApprovalFee} (d : String)
    (e : Approved b c sender bytes fee receipt b')
    (hkept : TokensKept b.tokens b.locked) :
    b'.coinsDue d + coinsSent d receipt.messages = b.coinsDue d := by
  have hlock : b'.lockedCoins d = b.lockedCoins d :=
    Bridge.lockedCoins_same d hkept (by rw [e.after]) (by rw [e.after])
  have hsettings : b'.settings = b.settings := by rw [e.after]
  have htips := Bridge.waitingTips_write d e.settings_eq hsettings
    (congrArg Bridge.withdrawals e.after :) e.found_eq
  have hwaited : e.found.waitingTip = e.found.tip.toNat := by
    unfold Withdrawal.waitingTip
    rw [e.not_approved]
    rfl
  rw [hwaited] at htips
  rw [e.messages, coinsSent_tipMessages]
  unfold Bridge.coinsDue
  -- once approved, its tip waits no more
  have hdone : ∀ w : Withdrawal, w.marks.approved = true →
      w.waitingTip = 0 := by
    intro w hw
    unfold Withdrawal.waitingTip
    rw [hw, if_pos rfl]
  rw [hdone _ rfl, ite_self] at htips
  omega

/-- A veto keeps the books: it moves no coins and leaves the tip as it was. -/
theorem Vetoed.coinsDue (d : String) (e : Vetoed b c sender bytes receipt b')
    (hkept : TokensKept b.tokens b.locked) :
    b'.coinsDue d + coinsSent d receipt.messages = b.coinsDue d := by
  have hlock : b'.lockedCoins d = b.lockedCoins d :=
    Bridge.lockedCoins_same d hkept (by rw [e.after]) (by rw [e.after])
  have htips : b'.waitingTips d = b.waitingTips d :=
    Bridge.waitingTips_keep d e.settings_eq (by rw [e.after])
      (congrArg Bridge.withdrawals e.after :) e.found_eq rfl
  rw [e.messages]
  unfold Bridge.coinsDue
  rw [hlock, htips]
  rfl

/-- Lifting a veto keeps the books in the same way. -/
theorem Restored.coinsDue (d : String)
    (e : Restored b c sender bytes receipt b')
    (hkept : TokensKept b.tokens b.locked) :
    b'.coinsDue d + coinsSent d receipt.messages = b.coinsDue d := by
  have hlock : b'.lockedCoins d = b.lockedCoins d :=
    Bridge.lockedCoins_same d hkept (by rw [e.after]) (by rw [e.after])
  have htips : b'.waitingTips d = b.waitingTips d :=
    Bridge.waitingTips_keep d e.settings_eq (by rw [e.after])
      (congrArg Bridge.withdrawals e.after :) e.found_eq rfl
  rw [e.messages]
  unfold Bridge.coinsDue
  rw [hlock, htips]
  rfl

/-- A payout keeps the books: what it sends was locked or came with it. -/
theorem Executed.coinsDue {kind : TokenKind} (d : String)
    (e : Executed b c funds kind bytes receipt b')
    (hkept : TokensKept b.tokens b.locked)
    (hplaced : FeePlaced b.tokens e.found) :
    b'.coinsDue d + coinsSent d receipt.messages
      = b.coinsDue d + coinsOf d funds := by
  have hlock := e.lockedCoins d hkept
  have htips : b'.waitingTips d = b.waitingTips d :=
    Bridge.waitingTips_keep d e.settings_eq (by rw [e.after])
      (congrArg Bridge.withdrawals e.after :) e.found_eq rfl
  have hsplit := e.token.inCoins_add d e.split
  rw [e.messages, coinsSent_append, e.coinsSent_released d,
    e.coinsSent_fee d hplaced, coinsOf_nativeFunds d e.attached_eq]
  unfold Bridge.coinsDue
  omega

/-- An administrative request keeps the books, for it moves no coins. -/
theorem Administered.coinsDue (d : String) (e : Administered b receipt b')
    (hkept : TokensKept b.tokens b.locked) :
    b'.coinsDue d + coinsSent d receipt.messages = b.coinsDue d := by
  have hlock : b'.lockedCoins d = b.lockedCoins d :=
    Bridge.lockedCoins_moved d hkept e.tokens (by rw [e.frame])
  obtain ⟨s, s', hs, hs', hmoved⟩ := e.settings
  have hrecords : b'.withdrawals = b.withdrawals := by rw [e.frame]
  have htips : b'.waitingTips d = b.waitingTips d := by
    rw [Bridge.waitingTips_eq d hs, Bridge.waitingTips_eq d hs',
      hmoved.nativeDenom, hrecords]
  rw [e.messages]
  unfold Bridge.coinsDue
  rw [hlock, htips]
  rfl

end

-- ============================================================== every state

/-- Coins come in with a deposit exactly if it is one of coins. -/
theorem Brought.received {t : Taken} {token : Token} {amount : Amount}
    {destChain destAccount : List UInt8} (d : String)
    (h : Brought t.before.bridge t.funds t.request token amount destChain
      destAccount)
    (hkept : TokensKept t.before.bridge.tokens t.before.bridge.locked) :
    t.received d = token.inCoins d amount := by
  unfold Taken.received
  generalize t.request = r at h
  cases h with
  | coin attached found native kind =>
      have hname := (hkept.get?_of_loadToken found).1
      rw [token.inCoins_of_native d amount native, hname, attached]
      exact coinsOf_coins d amount _
  | held attached found native kind =>
      rw [token.inCoins_of_contract d amount native]
      rfl
  | burned attached found native kind =>
      rw [token.inCoins_of_contract d amount native]
      rfl

/-- A payout takes coins with it, which may pay the fee beside the amount. -/
theorem Request.takesCoins_of_payoutOf {r : Request} {bytes : List UInt8}
    (h : r.payoutOf = some bytes) : r.takesCoins = true := by
  cases r with
  | executeUnlock | executeMint => rfl
  | _ => cases h

/-- An administrative request takes no coins. -/
theorem Request.takesCoins_of_isAdministrative {r : Request}
    (h : r.isAdministrative = true) : r.takesCoins = false := by
  unfold takesCoins
  split
  · cases h
  · cases h
  · cases h
  · cases h
  · rfl

/-- A request that takes coins takes all that it was sent with. -/
theorem Taken.received_of_takesCoins {t : Taken} (d : String)
    (h : t.request.takesCoins = true) : t.received d = coinsOf d t.funds := by
  unfold received
  rw [h, if_pos rfl]

theorem Taken.received_eq_zero {t : Taken} (d : String)
    (h : t.request.takesCoins = false) : t.received d = 0 := by
  unfold received
  rw [h]
  rfl

/-- Every request changes the coins that are due by what it received less
what it sent. -/
theorem coins_balanced (d : String) :
    Balanced
      (fun b => TokensKept b.tokens b.locked
        ∧ b.withdrawals.Every (FeePlaced b.tokens))
      (·.coinsDue d) (·.received d) (·.sent d) := by
  -- nothing is owed at set-up, and each rule keeps the books by its lemma
  refine ⟨fun o => ?_, ?_, rfl⟩
  · obtain ⟨settings, -, hb, -⟩ := Bridge.setUp_eq_ok o.success
    have hset : o.bridge.settings = some settings := by rw [hb]
    have hrecords : o.bridge.withdrawals = Table.empty := by rw [hb]; rfl
    have htokens : o.bridge.tokens = Table.empty := by rw [hb]; rfl
    unfold Bridge.coinsDue Bridge.lockedCoins Bridge.isCoin
    rw [Bridge.waitingTips_eq d hset, hrecords, htokens, Table.get?_empty,
      Table.total_empty, ite_self]
    rfl
  · rintro t ⟨hkept, hfees⟩
    -- one case for each rule, with what the request brings on its left side
    have handled := t.handled
    generalize hr : t.request = r at handled
    cases handled with
    | deposit brought told =>
        have hreceived := Brought.received d (hr ▸ brought) hkept
        rw [hreceived]
        exact told.coinsDue d hkept (brought.get?_token hkept)
    | submit told =>
        rw [t.received_of_takesCoins d (by rw [hr]; rfl)]
        exact told.coinsDue d hkept
    | approve told =>
        rw [t.received_eq_zero d (by rw [hr]; rfl)]
        exact told.coinsDue d hkept
    | cancel told =>
        rw [t.received_eq_zero d (by rw [hr]; rfl)]
        exact told.coinsDue d hkept
    | uncancel told =>
        rw [t.received_eq_zero d (by rw [hr]; rfl)]
        exact told.coinsDue d hkept
    | execute asks told =>
        rw [t.received_of_takesCoins d
          (by rw [hr]; exact Request.takesCoins_of_payoutOf asks)]
        exact told.coinsDue d hkept (hfees _ _ told.found_eq)
    | administer only told =>
        rw [t.received_eq_zero d
          (by rw [hr]; exact Request.takesCoins_of_isAdministrative only)]
        exact told.coinsDue d hkept

/-- A step that takes no request sends no message. -/
theorem Session.messages_of_not_taken {s : Session} {x : Session.Step}
    {receipt : Receipt} (hx : s.takenBy x = none)
    (h : (s.step x).2 = .ok (.receipt receipt)) : receipt.messages = [] := by
  -- only a set-up or a reply answers with a receipt outside a request
  cases x with
  | setUp setup =>
      obtain ⟨receipt', hsetup, hreceipt⟩ := Outcome.map_eq_ok_iff.mp h
      cases hreceipt
      have hattempt : (s.attempt fun b => b.setUp setup).2 = .ok receipt :=
        hsetup
      obtain ⟨b, hb⟩ := attempt_eq_ok hattempt
      obtain ⟨settings, -, -, hsilent⟩ := Bridge.setUp_eq_ok hb
      exact hsilent
  | take sender funds request =>
      obtain ⟨t, ht⟩ := takenBy_of_response h
      rw [hx] at ht
      cases ht
  | reply id failure =>
      obtain ⟨receipt', hreply, hreceipt⟩ := Outcome.map_eq_ok_iff.mp h
      cases hreceipt
      obtain ⟨b, hb⟩ := reply_eq_ok hreply
      exact (Bridge.reply_eq_ok hb).2.2
  | migrate =>
      cases h
      rfl
  | ask q =>
      obtain ⟨answer, -, hanswer⟩ := Outcome.map_eq_ok_iff.mp h
      cases hanswer
  | setTime seconds =>
      obtain ⟨now, -, hnow⟩ := Outcome.map_eq_ok_iff.mp h
      cases hnow
  | advance seconds =>
      obtain ⟨now, -, hnow⟩ := Outcome.map_eq_ok_iff.mp h
      cases hnow
  | setCoins | openContract | setTokens | breakContract | garbleContract =>
      cases h

/-- At every moment of every run, for every denomination: what the requests
that stand have received is what they have sent, what is locked of a coin,
and the tips of the withdrawals that wait for their approval. Nothing else
sends: neither the set-up nor any step that takes no request. -/
theorem Run.cash_flow (r : Run) (d : String) :
    sumOver r.history.committed (·.received d)
        = sumOver r.history.committed (·.sent d)
          + (r.last.bridge.lockedCoins d + r.last.bridge.waitingTips d)
      ∧ r.opening.receipt.messages = []
      ∧ ∀ x receipt, r.last.takenBy x = none →
          (r.last.step x).2 = .ok (.receipt receipt) →
          receipt.messages = [] := by
  have hbooks : r.last.bridge.coinsDue d
      + sumOver r.history.committed (·.sent d)
        = sumOver r.history.committed (·.received d) :=
    (coins_balanced d).books (tokensKept_invariant.and feesPlaced_invariant) r
  obtain ⟨settings, -, -, hsilent⟩ := Bridge.setUp_eq_ok r.opening.success
  refine ⟨?_, hsilent, fun x receipt => Session.messages_of_not_taken⟩
  unfold Bridge.coinsDue at hbooks
  omega

end TokenBridge
