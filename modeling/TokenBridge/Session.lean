/-
The chain around the bridge: what it does with steps that fail.

A step that fails leaves no trace. A step whose receipt holds an awaited
message is not settled yet: the chain keeps the state from before it, and
if the report on that message makes the next reply fail, the whole
transaction is taken back to that state. Balances and the clock belong to
the chain and change by its own steps only; the clock has an end, and a step
that would go past it fails.
-/
import TokenBridge.Asking
import TokenBridge.Handling

namespace TokenBridge

-- ========================================================== the time of a block

/-- The last second of the chain's clock, which counts nanoseconds in 64 bits. -/
def lastBlockTime : Nat := 18446744073

/-- The time of a block, in seconds. -/
structure BlockTime where
  seconds : UInt64
  le_last : seconds.toNat ≤ lastBlockTime
deriving DecidableEq

/-- A time, unless the clock ends before it. -/
def BlockTime.ofSeconds? (seconds : Nat) : Option BlockTime :=
  if h : seconds ≤ lastBlockTime then
    some ⟨UInt64.ofNat seconds, by simpa using Nat.le_trans (Nat.mod_le seconds _) h⟩
  else none

/-- A number of seconds that a block can have is the seconds of its block. -/
theorem BlockTime.toNat_seconds_of_ofSeconds? {n : Nat} {t : BlockTime}
    (h : BlockTime.ofSeconds? n = some t) : t.seconds.toNat = n := by
  unfold BlockTime.ofSeconds? at h
  split at h
  case isTrue hn =>
    cases h
    simp only [lastBlockTime] at hn
    simp only [UInt64.toNat_ofNat']
    omega
  case isFalse => cases h

-- ================================================================ the session

/-- The bridge and the chain around it. -/
structure Session where
  bridge : Bridge
  /-- The state before the transaction that waits for a reply. -/
  checkpoint : Option Bridge
  now : BlockTime
  bank : Bank
deriving DecidableEq

namespace Session

/-- The address under which the bridge runs. -/
def bridgeAddress : Address := "terra1bridge"

/-- Nothing stored, at a time. -/
def start (now : BlockTime) : Session := ⟨Bridge.blank, none, now, Bank.empty⟩

/-- What a handler sees of the world outside: the time, the bank and its own
address. -/
def context (s : Session) : Context := ⟨s.now.seconds, s.bank, bridgeAddress⟩

/-- The clock is put to a time; it stays where it is if the time is past its end. -/
def setTime (s : Session) (seconds : Nat) : Session × Outcome UInt64 :=
  match BlockTime.ofSeconds? seconds with
  | some now => ({ s with now }, .ok now.seconds)
  | none => (s, .error .arithmetic)

-- ================================================================ the roll-back

/-- A step of the bridge: its effect if it succeeds, no trace if it fails. -/
def attempt {α : Type} (s : Session) (step : Bridge → Outcome (α × Bridge)) :
    Session × Outcome α :=
  match step s.bridge with
  | .ok (a, b) => ({ s with bridge := b }, .ok a)
  | .error e => (s, .error e)

/-- A set-up, rolled back where it fails. -/
def setUp (s : Session) (setup : Setup) : Session × Outcome Receipt :=
  s.attempt fun b => b.setUp setup

/-- A migration; it never fails. -/
def migrate (s : Session) : Session × Outcome Receipt :=
  s.attempt fun b => .ok b.migrate

/-- A request; if it waits for a report, the state before it is kept. -/
def take (s : Session) (sender : Address) (funds : List Coin) (r : Request) :
    Session × Outcome Receipt :=
  match s.bridge.take s.context sender funds r with
  | .error e => (s, .error e)
  | .ok (receipt, b) =>
    let checkpoint :=
      if receipt.messages.any Dispatch.isAwaited then some s.bridge else s.checkpoint
    ({ s with bridge := b, checkpoint }, .ok receipt)

/-- A report on an awaited message; if the bridge refuses it, the transaction is taken back. -/
def reply (s : Session) (id : UInt64) (failure : Option String) : Session × Outcome Receipt :=
  match s.bridge.reply s.context id failure with
  | .ok (receipt, b) => ({ s with bridge := b, checkpoint := none }, .ok receipt)
  | .error e => ({ s with bridge := s.checkpoint.getD s.bridge, checkpoint := none }, .error e)

/-- A question, answered from the state as it stands and without a change. -/
def ask (s : Session) (q : Question) : Outcome Answer := s.bridge.ask s.context q

-- ================================================================ all the steps

/-- A step of the bridge, or of the chain around it. -/
inductive Step
  | setUp (setup : Setup)
  | take (sender : Address) (funds : List Coin) (r : Request)
  | reply (id : UInt64) (failure : Option String)
  | ask (q : Question)
  | migrate
  | setTime (seconds : UInt64)
  | advance (seconds : UInt64)
  | setCoins (account : Address) (denom : String) (amount : Amount)
  | openContract (contract : Address)
  | setTokens (contract account : Address) (amount : Amount)
  | breakContract (contract : Address) (reason : String)
  | garbleContract (contract : Address)
deriving DecidableEq

/-- What a step is answered with. -/
inductive Response
  | receipt (r : Receipt)
  | answer (a : Answer)
  | time (seconds : UInt64)
  | done
deriving DecidableEq

/-- One step. Answers of the outside and changes of the clock are steps like
any other, so a run has nothing else. -/
def step (s : Session) : Step → Session × Outcome Response
  | .setUp setup =>
    let (s, r) := s.setUp setup
    (s, r.map .receipt)
  | .take sender funds request =>
    let (s, r) := s.take sender funds request
    (s, r.map .receipt)
  | .reply id failure =>
    let (s, r) := s.reply id failure
    (s, r.map .receipt)
  | .ask q => (s, (s.ask q).map .answer)
  | .migrate =>
    let (s, r) := s.migrate
    (s, r.map .receipt)
  | .setTime seconds =>
    let (s, r) := s.setTime seconds.toNat
    (s, r.map .time)
  | .advance seconds =>
    let (s, r) := s.setTime (s.now.seconds.toNat + seconds.toNat)
    (s, r.map .time)
  | .setCoins account denom amount =>
    ({ s with bank := s.bank.setCoins account denom amount }, .ok .done)
  | .openContract contract => ({ s with bank := s.bank.openContract contract }, .ok .done)
  | .setTokens contract account amount =>
    ({ s with bank := s.bank.setTokens contract account amount }, .ok .done)
  | .breakContract contract reason =>
    ({ s with bank := s.bank.breakContract contract reason }, .ok .done)
  | .garbleContract contract => ({ s with bank := s.bank.garbleContract contract }, .ok .done)

/-- The session after steps, and the responses in order. -/
def run (s : Session) : List Step → Session × List (Outcome Response)
  | [] => (s, [])
  | first :: rest =>
    let (s, response) := s.step first
    let (s, responses) := s.run rest
    (s, response :: responses)

end Session

end TokenBridge
