import RegistryLogin.Identity.Request
import RegistryLogin.Login.Credential
import RegistryLogin.Login.TokenCache
import RegistryLogin.Provider.Flow
import RegistryLogin.Registry.Exchange

/-! A provider of registry logins: who it logs in as, and the collaborators that do the work. -/

namespace RegistryLogin

open Text

structure Delayed (α : Type) where
  pauses : Nat
  outcome : α

structure Collaborators (World Client : Type) where
  resolveHost : String → Except HostError String
  requestIdentity : IdentityRequest → World → Delayed (Except Cause Issued) × World
  openClient : Url → ClientOptions → World → Except Cause Client × World
  exchange : Client → ExchangeRequest → World → Delayed (Except Cause (Option Secret)) × World

structure Margin where
  duration : Duration
  nonnegative : 0 ≤ duration.ticks

namespace Margin

def default : Margin := ⟨⟨300000000000, by decide, by decide⟩, by decide⟩

def ofDuration (d : Duration) : Margin :=
  ⟨d.clamped, by rw [Duration.clamped_ticks]; omega⟩

end Margin

structure Provider (World Client : Type) where
  tenantId : String
  clientId : String
  options : ClientOptions
  margin : Margin
  sink : Sink
  collaborators : Collaborators World Client

structure Span where
  call : Nat
  flow : Flow
deriving DecidableEq

inductive Event
  | opened (flow : Flow)
  | counted (flow : Flow) (outcome : Outcome)
  | resolving (reference : String)
  | asked (request : IdentityRequest)
  | sourcePolled
  | building (server : Url) (options : ClientOptions)
  | exchanging (request : ExchangeRequest)
  | exchangePolled
  | reported (sink : Sink) (host : String)
  | refreshed (expiresOn : Instant)
  | exchanged (host : String)
deriving DecidableEq

namespace Event

def refreshedMessage : String := "refreshed identity access token"

def exchangedMessage : String := "exchanged identity token for registry refresh token"

end Event

structure Entry where
  call : Nat
  within : List Span
  event : Event
deriving DecidableEq

structure Guard where
  holder : Option Nat
  queue : List Nat
deriving DecidableEq

namespace Guard

def free : Guard := ⟨none, []⟩

/-- A free guard goes to a call that no other one waits beside, or else to whom the schedule favours. -/
def admits (call : Nat) (favoured : Bool) (g : Guard) : Bool :=
  g.holder.isNone && (favoured || g.queue.all (· == call))

def isTurnOf (call : Nat) (g : Guard) : Bool := g.queue.head?.all (· == call)

end Guard

structure Shared (World : Type) where
  cache : TokenCache
  guard : Guard
  tally : Tally
  clock : Instant
  entered : List Span
  trace : List Entry
  world : World

namespace Shared

variable {World : Type}

def initial (cache : TokenCache) (clock : Instant) (world : World) : Shared World :=
  ⟨cache, .free, .zero, clock, [], [], world⟩

def record (call : Nat) (event : Event) (s : Shared World) : Shared World :=
  { s with trace := s.trace ++ [⟨call, s.entered, event⟩] }

def count (f : Tally → Tally) (s : Shared World) : Shared World := { s with tally := f s.tally }

def store (token : IdentityToken) (s : Shared World) : Shared World :=
  { s with cache := ⟨some token⟩ }

def takeGuard (call : Nat) (s : Shared World) : Shared World :=
  { s with guard := ⟨some call, s.guard.queue.erase call⟩ }

def releaseGuard (s : Shared World) : Shared World :=
  { s with guard := { s.guard with holder := none } }

def queueUp (call : Nat) (s : Shared World) : Shared World :=
  { s with guard := { s.guard with queue := s.guard.queue ++ [call] } }

def inside {α : Type} (span : Span) (f : Shared World → Shared World × α) (s : Shared World) :
    Shared World × α :=
  let r := f { s with entered := span :: s.entered }
  ({ r.1 with entered := r.1.entered.tail }, r.2)

end Shared

namespace Provider

variable {World Client : Type}

def identityRequest (p : Provider World Client) : IdentityRequest :=
  ⟨p.tenantId, p.clientId, IdentityRequest.registryResource⟩

def exchangeRequest (p : Provider World Client) (host : String) (token : IdentityToken) :
    ExchangeRequest :=
  ⟨ExchangeRequest.grantAccessToken, host, if p.tenantId.isEmpty then none else some p.tenantId,
    token.accessToken⟩

def isEnabled (p : Provider World Client) (cache : TokenCache) : Bool :=
  !p.tenantId.isEmpty && !p.clientId.isEmpty && cache.hasAccessToken

def outline (p : Provider World Client) (cache : TokenCache) : Outline :=
  .record "WorkloadIdentityProvider"
    [("tenant_id", .text p.tenantId), ("client_id", .text p.clientId), ("cache", cache.outline),
      ("client_options", p.options.outline), ("refresh_margin", .word p.margin.duration.toText)]

end Provider

end RegistryLogin
