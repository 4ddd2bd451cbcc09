import RegistryLogin.Proofs.Calls.Course

/-! The exchanges that calls ask registries for, as the trace has them. -/

namespace RegistryLogin

def Event.request? : Event → Option ExchangeRequest
  | .exchanging request => some request
  | _ => none

namespace Shared

variable {World : Type} (s : Shared World)

def requests : List (Nat × ExchangeRequest) :=
  s.trace.filterMap fun entry => entry.event.request?.map (entry.call, ·)

@[simp] lemma requests_record (call : Nat) (event : Event) :
    (s.record call event).requests = s.requests ++ (event.request?.map (call, ·)).toList := by
  cases h : event.request? <;> simp [requests, record, h]

@[simp] lemma requests_count (f : Tally → Tally) : (s.count f).requests = s.requests := rfl

@[simp] lemma requests_store (token : IdentityToken) : (s.store token).requests = s.requests := rfl

@[simp] lemma requests_releaseGuard : s.releaseGuard.requests = s.requests := rfl

@[simp] lemma requests_inWorld (world : World) : (s.inWorld world).requests = s.requests := rfl

@[simp] lemma requests_inside {α : Type} (span : Span) (f : Shared World → Shared World × α) :
    (s.inside span f).1.requests = (f { s with entered := span :: s.entered }).1.requests := rfl

end Shared

namespace Provider

variable {World Client : Type} (p : Provider World Client) (call : Nat)

lemma settle_requests (outcome : Except Cause Issued) (s : Shared World) :
    (settle call outcome s).1.requests = s.requests := by
  cases outcome with
  | error cause => simp [settle, Event.request?]
  | ok issued =>
    simp only [settle]
    cases issued.token? s.clock <;> simp [Event.request?]

lemma pollSource_requests (job : Job) (answer : Delayed (Except Cause Issued)) (s : Shared World) :
    (pollSource call job answer s).1.requests = s.requests := by
  have hs : (s.inside ⟨call, .identityRefresh⟩ fun s => (s.record call .sourcePolled, ())).1.requests =
      s.requests := by simp [Event.request?]; rfl
  obtain ⟨pauses, outcome⟩ := answer
  cases pauses with
  | succ pauses => exact hs
  | zero => exact (settle_requests call outcome _).trans hs

lemma refresh_requests (job : Job) (s : Shared World) :
    (p.refresh call job s).1.requests = s.requests := by
  let t := (((s.record call (.opened .identityRefresh)).record call
    (.counted .identityRefresh .attempt)).record call (.asked p.identityRequest)).inWorld
      (p.collaborators.requestIdentity p.identityRequest s.world).2
  have ht : t.requests = s.requests := by simp [t, Event.request?]
  exact (pollSource_requests call job (p.answerIn s.world) t).trans ht

lemma renew_requests (job : Job) (s : Shared World) :
    (p.renew call job s).1.requests = s.requests := by
  unfold renew
  rcases p.fresh? s with _ | _ | token
  · rfl
  · exact p.refresh_requests call job s
  · rfl

variable (favoured : Bool)

lemma seek_requests (job : Job) (s : Shared World) :
    (p.seek call job favoured s).1.requests = s.requests := by
  unfold seek
  rcases p.fresh? s with _ | _ | token
  · rfl
  · cases s.guard.admits call favoured with
    | false => rfl
    | true => exact p.renew_requests call job (s.takeGuard call)
  · rfl

lemma await_requests (job : Job) (s : Shared World) :
    (p.await call job favoured s).1.requests = s.requests := by
  unfold await
  cases s.guard.admits call favoured with
  | false => rfl
  | true => exact p.renew_requests call job (s.takeGuard call)

def negotiate? (host : String) (token : IdentityToken) (world : World) :
    Option (Delayed (Except Cause (Option Secret)) × World) :=
  match serverUrl host with
  | .error _ => none
  | .ok server =>
    match p.collaborators.openClient server p.options world with
    | (.error _, _) => none
    | (.ok client, world) =>
      some (p.collaborators.exchange client (p.exchangeRequest host token) world)

def requestsOf (job : Job) (r : Progress IdentityToken) (world : World) :
    List (Nat × ExchangeRequest) :=
  match job, r with
  | .login host, .finished (.ok token) =>
    (p.negotiate? host token world).toList.map fun _ => (call, p.exchangeRequest host token)
  | _, _ => []

lemma pollExchange_requests (host : String) (token : IdentityToken)
    (answer : Delayed (Except Cause (Option Secret))) (s : Shared World) :
    (pollExchange call host token answer s).1.requests = s.requests := by
  obtain ⟨pauses, outcome⟩ := answer
  cases pauses <;> simp [pollExchange, Event.request?]

lemma connect_requests (host : String) (token : IdentityToken) (s : Shared World) :
    (p.connect call host token s).1.requests =
      s.requests ++ p.requestsOf call (.login host) (.finished (.ok token)) s.world := by
  cases hs : serverUrl host with
  | error error => simp [connect, requestsOf, negotiate?, hs]
  | ok server =>
    rcases ho : p.collaborators.openClient server p.options s.world with ⟨cause | client, world⟩
    · rw [p.connect_noClient call hs ho]
      simp [requestsOf, negotiate?, hs, ho, Event.request?]
    · rcases hx : p.collaborators.exchange client (p.exchangeRequest host token) world
        with ⟨answer, world'⟩
      rw [p.connect_opened call hs ho hx, pollExchange_requests]
      simp [requestsOf, negotiate?, hs, ho, Event.request?]

lemma issue_requests (host : String) (token : IdentityToken) (refreshToken : Option Secret)
    (s : Shared World) : (p.issue call host token refreshToken s).1.requests = s.requests := by
  cases refreshToken with
  | none => rfl
  | some secret =>
    simp only [issue]
    split <;> simp [Event.request?]

lemma concludeExchange_requests (host : String) (token : IdentityToken)
    (r : Shared World × Progress (Option Secret)) :
    (p.concludeExchange call host token r).1.requests = r.1.requests := by
  obtain ⟨s, r⟩ := r
  rcases r with phase | (error | refreshToken) | stage
  · rfl
  · simp [concludeExchange, Event.request?]
  · simp [concludeExchange, issue_requests, Event.request?]
  · rfl

lemma exchange_requests (host : String) (token : IdentityToken) (s : Shared World) :
    (p.exchange call host token s).1.requests =
      s.requests ++ p.requestsOf call (.login host) (.finished (.ok token)) s.world := by
  let t := (s.record call (.opened .registryExchange)).record call
    (.counted .registryExchange .attempt)
  have ht : t.requests = s.requests := by simp [t, Event.request?]
  have hx := p.connect_requests call host token
    { t with entered := ⟨call, .registryExchange⟩ :: t.entered }
  simp only [exchange, concludeExchange_requests, Shared.requests_inside]
  rw [← ht]
  exact hx

lemma proceed_requests (job : Job) (r : Shared World × Progress IdentityToken) :
    (p.proceed call job r).1.requests = r.1.requests ++ p.requestsOf call job r.2 r.1.world := by
  obtain ⟨s, r⟩ := r
  rcases r with phase | (error | token) | stage
  · simp [proceed, requestsOf]
  · simp [proceed, requestsOf]
  · cases job with
    | warmUp => simp [proceed, requestsOf]
    | login host => exact p.exchange_requests call host token s
  · simp [proceed, requestsOf]

lemma closeLogin_requests (r : Shared World × Progress Verdict) :
    (closeLogin call r).1.requests = r.1.requests := by
  obtain ⟨s, r⟩ := r
  rcases r with phase | (error | verdict) | stage
  · rfl
  · simp [closeLogin, Event.request?]
  · simp [closeLogin, Event.request?]
  · rfl

end Provider

end RegistryLogin
