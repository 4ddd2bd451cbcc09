import RegistryLogin.Provider.Basic

/-! The course of a call: it runs until it has to wait, for the guard or for an answer. -/

namespace RegistryLogin

inductive Errand
  | prime
  | provide (reference : String)

inductive Job
  | warmUp
  | login (host : String)

inductive Verdict
  | primed
  | issued (credential : Credential)

inductive Stage
  | identity
  | exchange
deriving DecidableEq

inductive Ending
  | returned (result : Except LoginError Verdict)
  | overflowed (stage : Stage)
  | cancelled (stage : Stage)

inductive Phase
  | waiting (job : Job)
  | refreshing (job : Job) (answer : Delayed (Except Cause Issued))
  | exchanging (host : String) (token : IdentityToken)
      (answer : Delayed (Except Cause (Option Secret)))
  | done (ending : Ending)

inductive Progress (α : Type)
  | suspended (phase : Phase)
  | finished (result : Except LoginError α)
  | overflowed (stage : Stage)

namespace Provider

variable {World Client : Type} (p : Provider World Client) (call : Nat)

def settle (outcome : Except Cause Issued) (s : Shared World) :
    Shared World × Progress IdentityToken :=
  match outcome with
  | .error cause =>
    (((s.count .failRefresh).record call (.counted .identityRefresh .failure)).releaseGuard,
      .finished (.error (.identityRefresh cause)))
  | .ok issued =>
    match issued.token? s.clock with
    | none => (s.releaseGuard, .overflowed .identity)
    | some token =>
      (((((s.store token).count .refresh).record call (.counted .identityRefresh .success)).record
        call (.refreshed token.expiresOn)).releaseGuard, .finished (.ok token))

def pollSource (job : Job) (answer : Delayed (Except Cause Issued)) (s : Shared World) :
    Shared World × Progress IdentityToken :=
  let s := (s.inside ⟨call, .identityRefresh⟩ fun s => (s.record call .sourcePolled, ())).1
  match answer.pauses with
  | pauses + 1 => (s, .suspended (.refreshing job ⟨pauses, answer.outcome⟩))
  | 0 => settle call answer.outcome s

def refresh (job : Job) (s : Shared World) : Shared World × Progress IdentityToken :=
  let s := ((s.record call (.opened .identityRefresh)).record call
    (.counted .identityRefresh .attempt)).record call (.asked p.identityRequest)
  let (answer, world) := p.collaborators.requestIdentity p.identityRequest s.world
  pollSource call job answer { s with world := world }

/-- The cached token if it is fresh; no answer if that leads out of the range of instants. -/
def fresh? (s : Shared World) : Option (Option IdentityToken) :=
  s.cache.freshAt? s.clock p.margin.duration

def renew (job : Job) (s : Shared World) : Shared World × Progress IdentityToken :=
  match p.fresh? s with
  | none => (s.releaseGuard, .overflowed .identity)
  | some (some token) => ((s.count .hit).releaseGuard, .finished (.ok token))
  | some none => p.refresh call job s

def seek (job : Job) (favoured : Bool) (s : Shared World) : Shared World × Progress IdentityToken :=
  match p.fresh? s with
  | none => (s, .overflowed .identity)
  | some (some token) => (s.count .hit, .finished (.ok token))
  | some none =>
    if s.guard.admits call favoured then p.renew call job (s.takeGuard call)
    else (s.queueUp call, .suspended (.waiting job))

def await (job : Job) (favoured : Bool) (s : Shared World) :
    Shared World × Progress IdentityToken :=
  if s.guard.admits call favoured then p.renew call job (s.takeGuard call)
  else (s, .suspended (.waiting job))

def pollExchange (host : String) (token : IdentityToken)
    (answer : Delayed (Except Cause (Option Secret))) (s : Shared World) :
    Shared World × Progress (Option Secret) :=
  let s := s.record call .exchangePolled
  match answer.pauses with
  | pauses + 1 => (s, .suspended (.exchanging host token ⟨pauses, answer.outcome⟩))
  | 0 => (s, .finished (answer.outcome.mapError .registryExchange))

def connect (host : String) (token : IdentityToken) (s : Shared World) :
    Shared World × Progress (Option Secret) :=
  match serverUrl host with
  | .error error => (s, .finished (.error (.clientConstruction (.url error))))
  | .ok server =>
    let s := s.record call (.building server p.options)
    match p.collaborators.openClient server p.options s.world with
    | (.error cause, world) =>
      ({ s with world := world }, .finished (.error (.clientConstruction cause)))
    | (.ok client, world) =>
      let request := p.exchangeRequest host token
      let s := ({ s with world := world } : Shared World).record call (.exchanging request)
      let (answer, world) := p.collaborators.exchange client request s.world
      pollExchange call host token answer { s with world := world }

def issue (host : String) (token : IdentityToken) (refreshToken : Option Secret)
    (s : Shared World) : Shared World × Progress Verdict :=
  match refreshToken with
  | none => (s, .finished (.error (.missingRefreshToken host)))
  | some secret =>
    let s := (s.record call (.reported p.sink host)).record call (.exchanged host)
    match Credential.earlierExpiry? token.expiresOn s.clock with
    | none => (s, .overflowed .exchange)
    | some expiresOn => (s, .finished (.ok (.issued (.ofRefreshToken secret expiresOn))))

def concludeExchange (host : String) (token : IdentityToken) :
    Shared World × Progress (Option Secret) → Shared World × Progress Verdict
  | (s, .suspended phase) => (s, .suspended phase)
  | (s, .overflowed stage) => (s, .overflowed stage)
  | (s, .finished (.error error)) =>
    (s.record call (.counted .registryExchange .failure), .finished (.error error))
  | (s, .finished (.ok refreshToken)) =>
    p.issue call host token refreshToken (s.record call (.counted .registryExchange .success))

def exchange (host : String) (token : IdentityToken) (s : Shared World) :
    Shared World × Progress Verdict :=
  let s := (s.record call (.opened .registryExchange)).record call
    (.counted .registryExchange .attempt)
  p.concludeExchange call host token
    (s.inside ⟨call, .registryExchange⟩ (p.connect call host token))

def proceed (job : Job) :
    Shared World × Progress IdentityToken → Shared World × Progress Verdict
  | (s, .suspended phase) => (s, .suspended phase)
  | (s, .overflowed stage) => (s, .overflowed stage)
  | (s, .finished (.error error)) => (s, .finished (.error error))
  | (s, .finished (.ok token)) =>
    match job with
    | .warmUp => (s, .finished (.ok .primed))
    | .login host => p.exchange call host token s

def phaseOf : Progress Verdict → Phase
  | .suspended phase => phase
  | .finished result => .done (.returned result)
  | .overflowed stage => .done (.overflowed stage)

def closeLogin (r : Shared World × Progress Verdict) : Shared World × Phase :=
  (match r.2 with
    | .finished (.ok _) => (r.1.record call (.counted .provide .success)).count .succeed
    | .finished (.error _) => (r.1.record call (.counted .provide .failure)).count .fail
    | _ => r.1,
    phaseOf r.2)

def asLogin (f : Shared World → Shared World × Progress Verdict) (s : Shared World) :
    Shared World × Phase :=
  closeLogin call (s.inside ⟨call, .provide⟩ f)

def asJob (job : Job) (f : Shared World → Shared World × Progress Verdict) (s : Shared World) :
    Shared World × Phase :=
  match job with
  | .warmUp => ((f s).1, phaseOf (f s).2)
  | .login _ => asLogin call f s

def resolve (reference : String) (favoured : Bool) (s : Shared World) :
    Shared World × Progress Verdict :=
  let s := s.record call (.resolving reference)
  match p.collaborators.resolveHost reference with
  | .error error => (s, .finished (.error (.hostResolution error)))
  | .ok host => p.proceed call (.login host) (p.seek call (.login host) favoured s)

def start (errand : Errand) (favoured : Bool) (s : Shared World) : Shared World × Phase :=
  match errand with
  | .prime =>
    asJob call .warmUp (fun s => p.proceed call .warmUp (p.seek call .warmUp favoured s)) s
  | .provide reference =>
    asLogin call (p.resolve call reference favoured)
      (((s.record call (.opened .provide)).record call (.counted .provide .attempt)).count .attempt)

def poll (phase : Phase) (favoured : Bool) (s : Shared World) : Shared World × Phase :=
  match phase with
  | .waiting job => asJob call job (fun s => p.proceed call job (p.await call job favoured s)) s
  | .refreshing job answer =>
    asJob call job (fun s => p.proceed call job (pollSource call job answer s)) s
  | .exchanging host token answer =>
    asLogin call (fun s => p.concludeExchange call host token
      (s.inside ⟨call, .registryExchange⟩ (pollExchange call host token answer))) s
  | .done ending => (s, .done ending)

def dropJob (job : Job) (f : Shared World → Shared World) (s : Shared World) : Shared World :=
  match job with
  | .warmUp => f s
  | .login _ => (s.inside ⟨call, .provide⟩ fun s => (f s, ())).1

/-- Gives a call up. It leaves the queue, or the guard if it holds that; what it waits for is dropped
inside the span that it would be polled in. -/
def cancel (phase : Phase) (s : Shared World) : Shared World × Phase :=
  match phase with
  | .waiting job =>
    (dropJob call job (fun s => { s with guard := { s.guard with queue := s.guard.queue.erase call } }) s,
      .done (.cancelled .identity))
  | .refreshing job _ =>
    (dropJob call job
        (fun s => (s.inside ⟨call, .identityRefresh⟩ fun s => (s, ())).1.releaseGuard) s,
      .done (.cancelled .identity))
  | .exchanging _ _ _ =>
    ((s.inside ⟨call, .provide⟩ fun s => s.inside ⟨call, .registryExchange⟩ fun s => (s, ())).1,
      .done (.cancelled .exchange))
  | .done ending => (s, .done ending)

end Provider

end RegistryLogin
