import RegistryLogin.Number.Binary64

/-! The steps of a login as they are counted and traced, and the names they go by. -/

namespace RegistryLogin

inductive Flow
  | provide
  | identityRefresh
  | registryExchange
deriving DecidableEq, Repr

namespace Flow

def label : Flow → String
  | .provide => "provide"
  | .identityRefresh => "identity_refresh"
  | .registryExchange => "registry_exchange"

def stage : Flow → String
  | .provide => "provide"
  | .identityRefresh => "refresh_identity_token"
  | .registryExchange => "exchange"

def spanName : String := "acr_auth.flow"

def counterName : String := "acr_auth_flow_total"

end Flow

inductive Outcome
  | attempt
  | success
  | failure
deriving DecidableEq, Repr

def Outcome.label : Outcome → String
  | .attempt => "attempt"
  | .success => "success"
  | .failure => "failure"

inductive Sink
  | histogram
  | custom
deriving DecidableEq, Repr

def Sink.histogramName : String := "acr_auth_exchange_duration_seconds"

def Sink.seconds? (microseconds : Nat) : Option Binary64 := do
  let whole ← Binary64.ofNat? (microseconds / 1000000)
  let nanoseconds ← Binary64.ofNat? (microseconds % 1000000 * 1000)
  let fraction ← nanoseconds.div? (← Binary64.ofNat? 1000000000)
  whole.add? fraction

structure Tally where
  attempts : UInt64
  successes : UInt64
  failures : UInt64
  identityRefreshes : UInt64
  identityRefreshFailures : UInt64
  cacheHits : UInt64
deriving DecidableEq

namespace Tally

def zero : Tally := ⟨0, 0, 0, 0, 0, 0⟩

def attempt (t : Tally) : Tally := { t with attempts := t.attempts + 1 }
def succeed (t : Tally) : Tally := { t with successes := t.successes + 1 }
def fail (t : Tally) : Tally := { t with failures := t.failures + 1 }
def refresh (t : Tally) : Tally := { t with identityRefreshes := t.identityRefreshes + 1 }

def failRefresh (t : Tally) : Tally :=
  { t with identityRefreshFailures := t.identityRefreshFailures + 1 }

def hit (t : Tally) : Tally := { t with cacheHits := t.cacheHits + 1 }

end Tally

end RegistryLogin
