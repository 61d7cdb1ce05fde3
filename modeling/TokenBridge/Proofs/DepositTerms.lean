/-
What a deposit charges and moves, down to the last unit.

The three deposit messages name a total, each in its own way
(`Request.brings`). The bridge charges the rate that the depositor owes and
asks for no more than the total: the net amount goes into custody, in the
way of the message, and the fee to its recipient. What is charged is the
quote that anybody could have asked for just before, since the quote and the
deposit run the same rule on the same state. Rounding settles which messages
there are: a fee of less than one unit is no fee, and the net amount is
never nothing.
-/
import TokenBridge.Proofs.Arithmetic
import TokenBridge.Proofs.Solvency

namespace TokenBridge

open Outcome

-- ================================================================= the messages

/-- What a deposit message brings: the one coin attached, or an amount of a
contract's token. -/
def Request.brings (funds : List Coin) : Request → Option (String × Amount)
  | .depositNative _ _ =>
    match funds with
    | [coin] => some (coin.denom, coin.amount)
    | _ => none
  | .depositToken id amount _ _ => some (id, amount)
  | .depositMintable id amount _ _ => some (id, amount)
  | _ => none

/-- What fetches the net amount of a deposit. A coin has come along. -/
def Request.fetches (id : String) (owner : Address) (net : Amount) :
    Request → List Dispatch
  | .depositToken _ _ _ _ =>
    [.awaited (.call id (.transferFrom owner Session.bridgeAddress net))]
  | .depositMintable _ _ _ _ => [.awaited (.call id (.burnFrom owner net))]
  | _ => []

/-- What pays the fee of a deposit, out of the coin or the allowance. -/
def Request.paysFee (id : String) (owner recipient : Address) (fee : Amount) :
    Request → Outgoing
  | .depositNative _ _ => .send recipient (coins fee id)
  | _ => .call id (.transferFrom owner recipient fee)

/-- What a deposit that is taken does: what it charges, records, sends and
locks. -/
structure DepositMade (s : Session) (sender : Address) (request : Request)
    (token : Token) (amount : Amount) (settings : Settings) (charge : Charge)
    (messages : List Dispatch) (after : Bridge) : Prop where
  found : s.bridge.tokens.get? token.id = some token
  settings_eq : s.bridge.settings = some settings
  /-- Asked the moment before, the bridge quotes the charge that is made. -/
  quoted : (s.step (.ask (.quote sender amount))).2
    = .ok (.answer (.quote sender amount charge))
  /-- The record takes the next nonce, and can be found by it. -/
  recorded : ∃ nonce next hash record, s.bridge.nextNonce = some nonce
    ∧ after.nextNonce = some next ∧ next.toNat = nonce.toNat + 1
    ∧ after.depositWithNonce nonce = .ok (some (hash, record))
    ∧ record.token = token.id ∧ record.fee = charge.fee
    ∧ record.amount = charge.net
  /-- The rate is the one that the schedule owes the account. -/
  rate_owed : s.bridge.RateOwed s.bank settings.fees sender charge.rate
    charge.source
  fee_eq : charge.fee.toNat = amount.toNat * charge.rate.toNat / 10000
  /-- No fee is over one percent. -/
  fee_le : charge.fee.toNat ≤ amount.toNat / 100
  split : charge.fee.toNat + charge.net.toNat = amount.toNat
  /-- Something is always left. -/
  net_pos : 1 ≤ charge.net.toNat
  /-- The first message, if any, fetches what is left; without a fee it is the
  only one. -/
  no_fee : charge.fee.toNat = 0 →
    messages = request.fetches token.id sender charge.net
  fee_paid : charge.fee.toNat ≠ 0 →
    messages = request.fetches token.id sender charge.net
      ++ [.plain (request.paysFee token.id sender settings.fees.recipient
        charge.fee)]
  /-- What is held is added to the ledger, without the fee. -/
  locked : token.kind = .lockUnlock →
    (after.lockedBalance token.id).toNat
      = (s.bridge.lockedBalance token.id).toNat + charge.net.toNat
  /-- No other token's ledger is touched, and of a minted one there is none. -/
  not_locked : ∀ id, id ≠ token.id ∨ token.kind = .mintBurn →
    after.lockedBalance id = s.bridge.lockedBalance id

-- ================================================================ each message

namespace Brought

variable {b : Bridge} {funds : List Coin} {request : Request} {token : Token}
  {amount : Amount} {destChain destAccount : List UInt8}

/-- What a deposit brings can be read off its request and the coins
attached. -/
theorem brings_eq
    (h : Brought b funds request token amount destChain destAccount)
    (kept : TokensKept b.tokens b.locked) :
    request.brings funds = some (token.id, amount) := by
  cases h with
  | coin attached found native kind =>
      rw [attached, (kept.get?_of_loadToken found).1]
      rfl
  | held attached found native kind =>
      rw [(kept.get?_of_loadToken found).1]
      rfl
  | burned attached found native kind =>
      rw [(kept.get?_of_loadToken found).1]
      rfl

/-- Custody is taken in the way of the message. -/
theorem fetches_eq
    (h : Brought b funds request token amount destChain destAccount)
    {s : Session} {sender : Address} {net : Amount} {custody : Option Custody}
    (taken : Custody.take token.kind s.context token sender net
      = .ok custody) :
    (custody.toList.map fun x => Dispatch.awaited x.message)
      = request.fetches token.id sender net := by
  cases h with
  | coin attached found native kind =>
      simp only [Custody.take, kind, native, if_true] at taken
      cases taken
      rfl
  | held attached found native kind =>
      simp only [Custody.take, kind, native, Bool.false_eq_true, if_false,
        bind_eq_ok_iff, pure_eq_ok_iff] at taken
      obtain ⟨check, -, rfl⟩ := taken
      rfl
  | burned attached found native kind =>
      simp only [Custody.take, kind, bind_eq_ok_iff, pure_eq_ok_iff] at taken
      obtain ⟨_, -, check, -, rfl⟩ := taken
      rfl

/-- The fee is paid as the request says: in coins to the recipient of fees,
or by a transfer call on the contract. -/
theorem paysFee_eq
    (h : Brought b funds request token amount destChain destAccount)
    (sender recipient : Address) (fee : Amount) :
    feeMessage token sender recipient fee
      = request.paysFee token.id sender recipient fee := by
  unfold feeMessage
  cases h with
  | coin attached found native kind => rw [native]; rfl
  | held attached found native kind => rw [native]; rfl
  | burned attached found native kind => rw [native]; rfl

end Brought

-- ================================================================= every deposit

/-- A question about the fee is answered with what a deposit is charged. -/
theorem Session.quote_of_charge {s : Session} {depositor : Address}
    {settings : Settings} {amount : Amount} {charge : Charge}
    (valid : checkAddress depositor = .ok depositor)
    (settings_eq : s.bridge.settings = some settings)
    (charge_eq : s.bridge.charge s.context settings.fees depositor amount
      = .ok charge) :
    (s.step (.ask (.quote depositor amount))).2
      = .ok (.answer (.quote depositor amount charge)) := by
  have hanswer : s.ask (.quote depositor amount)
      = .ok (.quote depositor amount charge) := by
    simp only [ask, Bridge.ask, bind_eq_ok_iff, pure_eq_ok_iff,
      Bridge.loadSettings_eq_ok_iff]
    exact ⟨depositor, valid, settings, settings_eq, charge, charge_eq, rfl⟩
  show (s.ask (.quote depositor amount)).map Response.answer = _
  rw [hanswer]
  rfl

namespace Deposited

variable {s : Session} {sender : Address} {funds : List Coin}
  {request : Request} {token : Token} {amount : Amount}
  {destChain destAccount : List UInt8} {receipt : Receipt} {b' : Bridge}
  (told : Deposited s.bridge s.context sender token amount destChain
    destAccount receipt b')
include told

/-- The record stands under the nonce that was next. -/
theorem depositWithNonce_eq :
    b'.depositWithNonce told.record.nonce
      = .ok (some ((told.record.transfer told.settings.thisChain).hash,
        told.record)) := by
  unfold Bridge.depositWithNonce
  rw [told.depositByNonce_after, told.deposits_after, Table.get?_insert_self]
  simp only [Table.get?_insert_self]

/-- What a deposit does is made up of what its rule tells. -/
theorem made (valid : checkAddress sender = .ok sender)
    (brought : Brought s.bridge funds request token amount destChain
      destAccount)
    (kept : TokensKept s.bridge.tokens s.bridge.locked)
    (capped : RatesCapped s.bridge) :
    DepositMade s sender request token amount told.settings told.charge
      receipt.messages b' := by
  obtain ⟨hrate, hfee, hsum⟩ := Bridge.charge_eq_ok told.charge_eq
  have hfee_eq := Fee.ofRate?_eq_some_iff.mp hfee
  have hfee_le := Fee.ofRate?_le (capped.rateOf told.settings_eq hrate) hfee
  have hnext : b'.nextNonce = some (told.record.nonce + 1) :=
    (congrArg Bridge.nextNonce told.after :)
  have hmessages := told.messages
  rw [brought.fetches_eq told.custody_eq, brought.paysFee_eq] at hmessages
  refine {
    found := brought.get?_token kept
    settings_eq := told.settings_eq
    quoted := Session.quote_of_charge valid told.settings_eq told.charge_eq
    recorded := ?recorded
    rate_owed := Bridge.rateOwed_of_rateOf capped.custom hrate
    fee_eq := hfee_eq.symm
    fee_le := by omega
    split := by omega
    net_pos := capped.net_pos told.settings_eq told.charge_eq told.amount_ne
    no_fee := ?no_fee
    fee_paid := ?fee_paid
    locked := ?locked
    not_locked := ?not_locked }
  case recorded =>
    refine ⟨told.record.nonce, _, _, told.record, told.nextNonce_eq, hnext,
      toNat_nonce_succ told.nonce_ne, told.depositWithNonce_eq, ?_, ?_, ?_⟩
    · rw [told.record_eq]
    · rw [told.record_eq]
    · rw [told.record_eq]
  case no_fee =>
    intro hzero
    rw [hmessages, Amount.isZero_iff.mpr hzero, if_pos rfl, List.append_nil]
  case fee_paid =>
    intro hne
    rw [hmessages, Amount.isZero_eq_false_iff.mpr hne,
      if_neg Bool.false_ne_true]
  case locked =>
    intro hkind
    rcases told.locked_eq with ⟨-, total, htotal, hlocked⟩ | ⟨hmint, -⟩
    · rw [Bridge.lockedBalance_of_write hlocked, if_pos rfl]
      exact htotal.symm
    · cases hkind.symm.trans hmint
  case not_locked =>
    intro id hid
    -- another token's total was not written, and a minted token has none
    rcases hid with hne | hmint
    · exact Bridge.lockedBalance_of_moved told.locked_eq (Ne.symm hne)
    · rcases told.locked_eq with ⟨hheld, -⟩ | ⟨-, hlocked⟩
      · cases hmint.symm.trans hheld
      · unfold Bridge.lockedBalance
        rw [hlocked]

end Deposited

/-- A request to deposit that is taken is a deposit. -/
theorem Taken.deposited {t : Taken} (deposits : t.request.isDeposit = true) :
    ∃ token amount destChain destAccount,
      Brought t.before.bridge t.funds t.request token amount destChain
          destAccount
        ∧ Nonempty (Deposited t.before.bridge t.before.context t.sender token
          amount destChain destAccount t.receipt t.after) := by
  have handled := t.handled
  generalize t.request = request at handled deposits
  cases handled with
  | deposit brought told => exact ⟨_, _, _, _, brought, ⟨told⟩⟩
  | submit | approve | cancel | uncancel => cases deposits
  | execute asks told => cases request <;> cases asks <;> cases deposits
  | administer only told => cases request <;> cases only <;> cases deposits

/-- A deposit that is taken charges what was quoted and moves what was
brought, whichever of the three messages it is. -/
theorem Run.deposit_exact {r : Run} {sender : Address} {funds : List Coin}
    {request : Request} {receipt : Receipt}
    (valid : checkAddress sender = .ok sender)
    (deposits : request.isDeposit = true)
    (accepted : (r.last.step (.take sender funds request)).2
      = .ok (.receipt receipt)) :
    ∃ token amount settings charge,
      request.brings funds = some (token.id, amount)
        ∧ DepositMade r.last sender request token amount settings charge
          receipt.messages
          (r.last.step (.take sender funds request)).1.bridge := by
  have hkept := (tokensKept_invariant.throughout r).now
  have hcapped := (ratesCapped_invariant.throughout r).now
  obtain ⟨t, ht⟩ := Session.takenBy_of_response accepted
  have hstep := Session.step_of_takenBy ht
  have hbefore := Session.before_of_takenBy ht
  cases Session.eq_of_takenBy ht
  obtain ⟨token, amount, destChain, destAccount, hbrought, ⟨told⟩⟩ :=
    t.deposited deposits
  rw [hbefore] at hbrought told
  rw [hstep] at accepted ⊢
  cases accepted
  exact ⟨token, amount, told.settings, told.charge, hbrought.brings_eq hkept,
    told.made valid hbrought hkept hcapped⟩

/-- A deposit of a thousand of the contract's token. -/
def Sample.bringing : Request :=
  .depositToken heldId thousand hereChain.toList account.toList

/-- It is taken, and does what a deposit does. -/
theorem Run.deposit_exact_of_thousand :
    checkAddress Sample.user = .ok Sample.user
      ∧ Sample.bringing.isDeposit = true
      ∧ ∃ (receipt : Receipt) (token : Token) (amount : Amount)
          (settings : Settings) (charge : Charge),
        Sample.bringing.brings [] = some (token.id, amount)
          ∧ DepositMade Sample.readyHeld.last Sample.user Sample.bringing token
            amount settings charge receipt.messages
            (Sample.readyHeld.last.step
              (.take Sample.user [] Sample.bringing)).1.bridge := by
  have hvalid : checkAddress Sample.user = .ok Sample.user := by
    decide +kernel
  have htaken : (Sample.readyHeld.last.takenBy
      (.take Sample.user [] Sample.bringing)).isSome = true := by
    decide +kernel
  obtain ⟨t, ht⟩ := Option.isSome_iff_exists.mp htaken
  have hresponse : (Sample.readyHeld.last.step
      (.take Sample.user [] Sample.bringing)).2 = .ok (.receipt t.receipt) :=
    congrArg Prod.snd (Session.step_of_takenBy ht)
  exact ⟨hvalid, rfl, t.receipt, Run.deposit_exact hvalid rfl hresponse⟩

end TokenBridge
