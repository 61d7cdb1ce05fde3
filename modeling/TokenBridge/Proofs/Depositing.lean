/-
What a deposit tells when it succeeds.

The three deposit messages differ in what they bring, and `Brought` says
what each may: the one coin attached, or an amount of a contract's token
with no coins beside it. From there on they are one rule, and `Deposited`
holds what that rule found, wrote and sent. The fee and the net amount are
tied to what was brought as natural numbers.
-/
import TokenBridge.Proofs.Custody

namespace TokenBridge

open Outcome

variable {b b' : Bridge} {c : Context} {sender : Address}
  {funds : List Coin} {receipt : Receipt}

-- ========================================================== what is brought

/-- What a deposit message brings: a token, an amount of it, and where the
rest is to go. -/
inductive Brought (b : Bridge) (funds : List Coin) :
    Request → Token → Amount → List UInt8 → List UInt8 → Prop
  /-- The one coin that came along is the deposit. -/
  | coin {token : Token} {amount : Amount} {denom : String}
      {destChain destAccount : List UInt8}
      (attached : funds = [⟨denom, amount⟩])
      (found : b.loadToken denom = .ok token)
      (native : token.isNative = true) (kind : token.kind = .lockUnlock) :
      Brought b funds (.depositNative destChain destAccount) token amount
        destChain destAccount
  /-- Tokens of a contract are named, and the bridge will hold them. -/
  | held {token : Token} {amount : Amount} {id : String}
      {destChain destAccount : List UInt8}
      (attached : funds = []) (found : b.loadToken id = .ok token)
      (native : token.isNative = false) (kind : token.kind = .lockUnlock) :
      Brought b funds (.depositToken id amount destChain destAccount) token
        amount destChain destAccount
  /-- Tokens of a contract are named, and will be burned. -/
  | burned {token : Token} {amount : Amount} {id : String}
      {destChain destAccount : List UInt8}
      (attached : funds = []) (found : b.loadToken id = .ok token)
      (native : token.isNative = false) (kind : token.kind = .mintBurn) :
      Brought b funds (.depositMintable id amount destChain destAccount)
        token amount destChain destAccount

/-- What is brought to be locked or burned comes without coins, and is a token
of a contract of the kind that the message is for. -/
theorem Bridge.depositableToken_eq_ok {id : String} {kind : TokenKind}
    {token : Token} (h : b.depositableToken funds id kind = .ok token) :
    funds = [] ∧ b.loadToken id = .ok token ∧ token.isNative = false
      ∧ token.kind = kind := by
  simp only [depositableToken, bind_eq_ok_iff, require_eq_ok_iff,
    pure_eq_ok_iff, exists_const, Bool.and_eq_true, Bool.not_eq_true',
    decide_eq_true_eq, List.isEmpty_iff] at h
  obtain ⟨hfunds, token, htoken, ⟨hnative, hkind⟩, rfl⟩ := h
  exact ⟨hfunds, htoken, hnative, hkind⟩

/-- What is brought as coins is a native token, and such tokens are locked. -/
theorem Bridge.depositableCoin_eq_ok {denom : String} {token : Token}
    (h : b.depositableCoin denom = .ok token) :
    b.loadToken denom = .ok token ∧ token.isNative = true
      ∧ token.kind = .lockUnlock := by
  simp only [depositableCoin, bind_eq_ok_iff, require_eq_ok_iff,
    pure_eq_ok_iff, exists_const, Bool.and_eq_true, decide_eq_true_eq] at h
  obtain ⟨token, htoken, ⟨hnative, hkind⟩, rfl⟩ := h
  exact ⟨htoken, hnative, hkind⟩

/-- A deposit of coins brings one coin, of one denomination. -/
theorem singleCoin_eq_ok {coin : Coin} (h : singleCoin funds = .ok coin) :
    funds = [coin] := by
  match funds, h with
  | [x], h => cases h; rfl

-- ================================================================== the fee

/-- The fee and the net amount make up what was brought. -/
theorem Bridge.charge_eq_ok {fees : Fee.Schedule} {account : Address}
    {amount : Amount} {charge : Charge}
    (h : b.charge c fees account amount = .ok charge) :
    b.rateOf c fees account = .ok (charge.rate, charge.source)
      ∧ Fee.ofRate? amount charge.rate = some charge.fee
      ∧ charge.net.toNat + charge.fee.toNat = amount.toNat := by
  simp only [Bridge.charge, bind_eq_ok_iff, pure_eq_ok_iff,
    ofOption_eq_ok_iff, Prod.exists] at h
  obtain ⟨rate, source, hrate, fee, hfee, net, hnet, rfl⟩ := h
  exact ⟨hrate, hfee, Amount.sub?_eq_some_iff.mp hnet⟩

-- ================================================================ recording

/-- Locking a deposit touches the locked balances only, and those only
where the bridge holds the token. -/
theorem Bridge.lockFor_eq_ok {token : Token} {amount : Amount}
    (h : b.lockFor token amount = .ok b') :
    ((token.kind = .lockUnlock ∧ ∃ total : Amount,
        (b.lockedBalance token.id).toNat + amount.toNat = total.toNat
          ∧ b'.locked = b.locked.insert token.id total)
      ∨ (token.kind = .mintBurn ∧ b'.locked = b.locked))
      ∧ b' = { b with locked := b'.locked } := by
  unfold lockFor at h
  cases hkind : token.kind with
  | lockUnlock =>
      simp only [hkind, map_eq_ok_iff, Prod.exists] at h
      obtain ⟨total, b₁, hinc, rfl⟩ := h
      obtain ⟨htotal, rfl⟩ := increaseLocked_eq_ok hinc
      exact ⟨.inl ⟨rfl, total, htotal, rfl⟩, rfl⟩
  | mintBurn =>
      simp only [hkind] at h
      cases h
      exact ⟨.inr ⟨rfl, rfl⟩, rfl⟩

/-- What a deposit that is taken tells. -/
structure Deposited (b : Bridge) (c : Context) (depositor : Address)
    (token : Token) (amount : Amount) (destChain destAccount : List UInt8)
    (receipt : Receipt) (b' : Bridge) where
  settings : Settings
  counterpart : Counterpart
  charge : Charge
  record : Deposit
  custody : Option Custody
  settings_eq : b.settings = some settings
  running : settings.paused = false
  amount_ne : amount.toNat ≠ 0
  destChain_eq : b.registeredChain destChain = .ok record.destChain
  counterpart_eq :
    b.loadCounterpart token.id record.destChain = .ok counterpart
  destAccount_eq : destAccountOf destAccount = .ok record.destAccount
  srcAccount_eq : localAccount depositor = .ok record.srcAccount
  charge_eq : b.charge c settings.fees depositor amount = .ok charge
  nextNonce_eq : b.nextNonce = some record.nonce
  /-- Otherwise there would be no next nonce to store. -/
  nonce_ne : record.nonce ≠ maxWord64
  /-- What of the record is neither read nor checked above. -/
  record_eq : record =
    { nonce := record.nonce, srcAccount := record.srcAccount,
      destChain := record.destChain, destAccount := record.destAccount,
      destToken := counterpart.token, token := token.id,
      amount := charge.net, fee := charge.fee, timestamp := c.now }
  /-- Held tokens are added up, the fee not included; burned ones are not. -/
  locked_eq :
    (token.kind = .lockUnlock ∧ ∃ total : Amount,
        (b.lockedBalance token.id).toNat + charge.net.toNat = total.toNat
          ∧ b'.locked = b.locked.insert token.id total)
      ∨ (token.kind = .mintBurn ∧ b'.locked = b.locked)
  custody_eq :
    Custody.take token.kind c token depositor charge.net = .ok custody
  /-- What is fetched waits for its report. -/
  sent : CustodySent b.inFlight
    (custody.toList.map fun x => .awaited x.message) b'.inFlight
  flying : b'.inFlight = custody.elim b.inFlight fun x => some x.check
  messages : receipt.messages =
    custody.toList.map (fun x => .awaited x.message)
      ++ if charge.fee.isZero then []
        else [.plain (feeMessage token depositor settings.fees.recipient
          charge.fee)]
  /-- Besides these five parts the bridge is what it was. -/
  after : b' = { b with
    nextNonce := some (record.nonce + 1)
    deposits :=
      b.deposits.insert (record.transfer settings.thisChain).hash record
    depositByNonce := b.depositByNonce.insert record.nonce
      (record.transfer settings.thisChain).hash
    locked := b'.locked
    inFlight := b'.inFlight }

namespace Deposited

variable {token : Token} {amount : Amount}
  {destChain destAccount : List UInt8}
  (e : Deposited b c sender token amount destChain destAccount receipt b')
include e

theorem settings_after : b'.settings = some e.settings := by
  rw [← e.settings_eq, e.after]

/-- A deposit is written into the log under the hash of its own transfer. -/
theorem deposits_after :
    b'.deposits = b.deposits.insert
      (e.record.transfer e.settings.thisChain).hash e.record :=
  (congrArg Bridge.deposits e.after :)

theorem depositByNonce_after :
    b'.depositByNonce = b.depositByNonce.insert e.record.nonce
      (e.record.transfer e.settings.thisChain).hash :=
  (congrArg Bridge.depositByNonce e.after :)

end Deposited

/-- What an accepted deposit has checked, written and sent, each under a name
of its own. The checks are read off in the order the handler makes them. -/
theorem Bridge.deposited_of_deposit {token : Token} {amount : Amount}
    {destChain destAccount : List UInt8}
    (h : b.deposit c sender token amount destChain destAccount
      = .ok (receipt, b')) :
    Nonempty (Deposited b c sender token amount destChain destAccount
      receipt b') := by
  simp only [deposit, bind_eq_ok_iff, require_eq_ok_iff, pure_eq_ok_iff,
    exists_const, loadSettings_eq_ok_iff, loadNextNonce_eq_ok_iff,
    Bool.not_eq_true', decide_eq_true_eq, Prod.exists, Prod.mk.injEq] at h
  obtain ⟨settings, hs, hrun, hamount, chain, hchain, counterpart,
    hcounterpart, dest, hdest, src, hsrc, charge, hcharge, nonce, hnonce,
    hlast, b₁, hlock, sent, b₂, htake, hreceipt, rfl⟩ := h
  -- the lock and the custody each write their own place, and the log the
  -- others
  obtain ⟨hlocked, hb₁⟩ := lockFor_eq_ok hlock
  obtain ⟨custody, hcustody, rfl, hsent, hflying, hb₂⟩ :=
    takeCustody_eq_ok htake
  have hlocked₂ : b₂.locked = b₁.locked := by rw [hb₂]
  have hidle : b₁.inFlight = b.inFlight := by rw [hb₁]; rfl
  refine ⟨{
    settings, counterpart, charge, custody
    record :=
      { nonce, srcAccount := src, destChain := chain, destAccount := dest,
        destToken := counterpart.token, token := token.id,
        amount := charge.net, fee := charge.fee, timestamp := c.now }
    settings_eq := hs
    running := hrun
    amount_ne := Amount.isZero_eq_false_iff.mp hamount
    destChain_eq := hchain
    counterpart_eq := hcounterpart
    destAccount_eq := hdest
    srcAccount_eq := hsrc
    charge_eq := hcharge
    nextNonce_eq := hnonce
    nonce_ne := hlast
    record_eq := rfl
    locked_eq := by rw [hlocked₂]; exact hlocked
    custody_eq := hcustody
    sent := by rw [← hidle]; exact hsent
    flying := by rw [← hidle]; exact hflying
    messages := by rw [← hreceipt]
    after := ?_ }⟩
  rw [hb₂, hb₁]
  rfl

-- ============================================================= the messages

/-- A deposit of coins is a deposit of the token that its coin is of. -/
theorem Bridge.deposited_of_depositNative {destChain destAccount : List UInt8}
    (h : b.depositNative c sender funds destChain destAccount
      = .ok (receipt, b')) :
    ∃ token amount,
      Brought b funds (.depositNative destChain destAccount) token amount
          destChain destAccount
        ∧ Nonempty (Deposited b c sender token amount destChain destAccount
          receipt b') := by
  simp only [depositNative, bind_eq_ok_iff] at h
  obtain ⟨coin, hcoin, token, htoken, h⟩ := h
  obtain ⟨hfound, hnative, hkind⟩ := depositableCoin_eq_ok htoken
  exact ⟨token, coin.amount, .coin (singleCoin_eq_ok hcoin) hfound hnative
    hkind, deposited_of_deposit h⟩

/-- A deposit of a token of a contract is one of the token that it names,
locked or burned by the kind. -/
theorem Bridge.deposited_of_depositContractToken {kind : TokenKind}
    {id : String} {amount : Amount} {destChain destAccount : List UInt8}
    (h : b.depositContractToken c sender funds kind id amount destChain
      destAccount = .ok (receipt, b')) :
    ∃ token, funds = [] ∧ b.loadToken id = .ok token
      ∧ token.isNative = false ∧ token.kind = kind
      ∧ Nonempty (Deposited b c sender token amount destChain destAccount
        receipt b') := by
  simp only [depositContractToken, bind_eq_ok_iff] at h
  obtain ⟨token, htoken, h⟩ := h
  obtain ⟨hfunds, hfound, hnative, hkind⟩ := depositableToken_eq_ok htoken
  exact ⟨token, hfunds, hfound, hnative, hkind, deposited_of_deposit h⟩

end TokenBridge
