/-
A reviewer at work: its sources, and how it turns verdicts into decisions.

Sources are known by the chain they report on; registering another one for
the same chain replaces the first. The reviewer counts the withdrawals that
it could not judge because it had no source for their chain, which tells an
operator that a source is missing.
-/
import TokenBridge.Reviewer.Config
import TokenBridge.Reviewer.Verdict

namespace TokenBridge

structure Reviewer where
  config : Reviewer.Config
  sources : Table ChainId Reviewer.Source
  /-- Withdrawals seen from chains without a source. -/
  unknownSources : UInt64

namespace Reviewer

def new (config : Config) : Reviewer := ⟨config, Table.empty, 0⟩

def register (r : Reviewer) (chain : ChainId) (source : Source) : Reviewer :=
  { r with sources := r.sources.insert chain source }

/-- Judges a sighting; the count goes up if it is from a chain without a source. -/
def verify (r : Reviewer) (s : Sighting) : Verdict × Reviewer :=
  match s.fault? r.config.thisChain with
  | some reason => (.invalid reason, r)
  | none =>
    match r.sources.get? s.transfer.srcChain with
    | none => (.pending, { r with unknownSources := r.unknownSources + 1 })
    | some source => (s.judge (source s.hash), r)

/-- What a verdict means for a canceler at a time. -/
def advise (r : Reviewer) (s : Sighting) (now : UInt64) : Verdict → Decision
  | .valid => .keep
  | .pending => .retry
  | .invalid reason =>
    if ReviewWindow.isOpen s.approvedAt r.config.window now then .cancel reason
    else .windowClosed reason

/-- What a canceler should do about a sighting at a time. -/
def review (r : Reviewer) (s : Sighting) (now : UInt64) : Decision × Reviewer :=
  if s.isApproved then
    let (verdict, r) := r.verify s
    (r.advise s now verdict, r)
  else (.retry, r)

end Reviewer

end TokenBridge
