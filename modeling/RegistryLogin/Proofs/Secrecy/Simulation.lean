import RegistryLogin.Proofs.Calls.Moves
import RegistryLogin.Proofs.Secrecy.Alike

namespace RegistryLogin

variable {World World' Client Client' : Type}

inductive Progress.Alike {α : Type} (A : α → α → Prop) : Progress α → Progress α → Prop
  | suspended {a b : Phase} (h : a.Alike b) : Progress.Alike A (.suspended a) (.suspended b)
  | finished {a b : Except LoginError α} (h : Except.Rel LoginError.Alike A a b) :
    Progress.Alike A (.finished a) (.finished b)
  | overflowed (stage : Stage) : Progress.Alike A (.overflowed stage) (.overflowed stage)

structure Likeness.Results (L : Likeness World World' Client Client') {α α' : Type}
    (A : α → α' → Prop) (r : Shared World × α) (r' : Shared World' × α') : Prop where
  shared : r.1.Alike L r'.1
  outcome : A r.2 r'.2

variable {L : Likeness World World' Client Client'}

namespace Shared.Alike

variable {s : Shared World} {s' : Shared World'} (h : s.Alike L s')
include h

lemma recordAlike (call : Nat) {event event' : Event}
    (shown : event.diagnostic = event'.diagnostic) :
    (s.record call event).Alike L (s'.record call event') :=
  { h with
    trace := by
      simp only [Shared.record, List.map_append, h.trace, List.map_cons, Entry.diagnostics,
        h.entered, shown] }

lemma record (call : Nat) (event : Event) : (s.record call event).Alike L (s'.record call event) :=
  h.recordAlike call rfl

lemma count (f : Tally → Tally) : (s.count f).Alike L (s'.count f) :=
  { h with tally := congrArg f h.tally }

lemma store {token token' : IdentityToken} (tokens : token.Alike token') :
    (s.store token).Alike L (s'.store token') :=
  { h with cache := .some tokens }

lemma takeGuard (call : Nat) : (s.takeGuard call).Alike L (s'.takeGuard call) :=
  { h with guard := congrArg (fun g : Guard => Guard.mk (some call) (g.queue.erase call)) h.guard }

lemma releaseGuard : s.releaseGuard.Alike L s'.releaseGuard :=
  { h with guard := congrArg (fun g : Guard => { g with holder := none }) h.guard }

lemma queueUp (call : Nat) : (s.queueUp call).Alike L (s'.queueUp call) :=
  { h with guard := congrArg (fun g : Guard => { g with queue := g.queue ++ [call] }) h.guard }

lemma leaveQueue (call : Nat) :
    Shared.Alike L { s with guard := { s.guard with queue := s.guard.queue.erase call } }
      { s' with guard := { s'.guard with queue := s'.guard.queue.erase call } } :=
  { h with guard := congrArg (fun g : Guard => { g with queue := g.queue.erase call }) h.guard }

lemma turn (clock : ClockMove) :
    Shared.Alike L { s with clock := clock.next s.clock } { s' with clock := clock.next s'.clock } :=
  { h with clock := congrArg clock.next h.clock }

lemma inWorld {w : World} {w' : World'} (worlds : L.worlds w w') :
    Shared.Alike L { s with world := w } { s' with world := w' } :=
  { h with world := worlds }

lemma inside {α α' : Type} {A : α → α' → Prop} (span : Span)
    {f : Shared World → Shared World × α} {f' : Shared World' → Shared World' × α'}
    (step : ∀ {t t'}, t.Alike L t' → L.Results A (f t) (f' t')) :
    L.Results A (s.inside span f) (s'.inside span f') := by
  have entered : Shared.Alike L { s with entered := span :: s.entered }
      { s' with entered := span :: s'.entered } :=
    { h with entered := congrArg (span :: ·) h.entered }
  obtain ⟨shared, outcome⟩ := step entered
  exact ⟨{ shared with entered := congrArg List.tail shared.entered }, outcome⟩

end Shared.Alike

section

variable {p : Provider World Client} {q : Provider World' Client'} {s : Shared World}
variable {s' : Shared World'} (alike : p.Alike L q) (call : Nat) (h : s.Alike L s')

section

include h

lemma Shared.Alike.settle {outcome outcome' : Except Cause Issued}
    (outcomes : Except.Rel Cause.Alike Issued.Alike outcome outcome') :
    L.Results (Progress.Alike IdentityToken.Alike) (Provider.settle call outcome s)
      (Provider.settle call outcome' s') := by
  cases outcomes with
  | error cause =>
    exact ⟨((h.count _).record call _).releaseGuard, .finished (.error (.identityRefresh cause))⟩
  | @ok issued issued' same =>
    have tokens := same.token? s'.clock
    simp only [Provider.settle, h.clock]
    generalize issued.token? s'.clock = token?, issued'.token? s'.clock = token'? at tokens ⊢
    cases tokens with
    | none => exact ⟨h.releaseGuard, .overflowed _⟩
    | @some token token' same =>
      have refreshed : (Event.refreshed token.expiresOn).diagnostic =
          (Event.refreshed token'.expiresOn).diagnostic := by
        rw [show token.expiresOn = _ from same]
      exact ⟨((((h.store same).count _).record call _).recordAlike call refreshed).releaseGuard,
        .finished (.ok same)⟩

lemma Shared.Alike.pollSource (job : Job) {answer answer' : Delayed (Except Cause Issued)}
    (answers : IdentityAnswer.Alike answer answer') :
    L.Results (Progress.Alike IdentityToken.Alike) (Provider.pollSource call job answer s)
      (Provider.pollSource call job answer' s') := by
  have polled : Shared.Alike L
      (s.inside ⟨call, .identityRefresh⟩ fun s => (s.record call .sourcePolled, ())).1
      (s'.inside ⟨call, .identityRefresh⟩ fun s => (s.record call .sourcePolled, ())).1 :=
    (h.inside (A := Eq) _ fun h => ⟨h.record call _, rfl⟩).shared
  obtain ⟨pauses, outcome⟩ := answer
  obtain ⟨pauses', outcome'⟩ := answer'
  obtain ⟨rfl, outcomes⟩ := answers
  cases pauses with
  | zero => exact polled.settle call outcomes
  | succ pauses => exact ⟨polled, .suspended (.refreshing job ⟨rfl, outcomes⟩)⟩

end

include alike h

lemma Provider.Alike.refresh (job : Job) :
    L.Results (Progress.Alike IdentityToken.Alike) (p.refresh call job s) (q.refresh call job s') := by
  have asked : p.identityRequest = q.identityRequest := by
    simp only [Provider.identityRequest, alike.tenantId, alike.clientId]
  have recorded := ((h.record call (.opened .identityRefresh)).record call
    (.counted .identityRefresh .attempt)).record call (.asked q.identityRequest)
  obtain ⟨answers, worlds⟩ := alike.collaborators.requestIdentity q.identityRequest h.world
  simp only [Provider.refresh, asked]
  exact (recorded.inWorld worlds).pollSource call job answers

lemma Provider.Alike.fresh? :
    Option.Rel (Option.Rel IdentityToken.Alike) (p.fresh? s) (q.fresh? s') := by
  simp only [Provider.fresh?, alike.margin, h.clock]
  exact h.cache.freshAt? _ _

lemma Provider.Alike.renew (job : Job) :
    L.Results (Progress.Alike IdentityToken.Alike) (p.renew call job s) (q.renew call job s') := by
  have fresh := alike.fresh? h
  simp only [Provider.renew]
  generalize p.fresh? s = token?, q.fresh? s' = token'? at fresh ⊢
  cases fresh with
  | none => exact ⟨h.releaseGuard, .overflowed _⟩
  | some fresh =>
    cases fresh with
    | none => exact alike.refresh call h job
    | some token => exact ⟨(h.count _).releaseGuard, .finished (.ok token)⟩

lemma Provider.Alike.seek (job : Job) (favoured : Bool) :
    L.Results (Progress.Alike IdentityToken.Alike) (p.seek call job favoured s)
      (q.seek call job favoured s') := by
  have fresh := alike.fresh? h
  simp only [Provider.seek, h.guard]
  generalize p.fresh? s = token?, q.fresh? s' = token'? at fresh ⊢
  cases fresh with
  | none => exact ⟨h, .overflowed _⟩
  | some fresh =>
    cases fresh with
    | some token => exact ⟨h.count _, .finished (.ok token)⟩
    | none =>
      dsimp only
      split
      · exact alike.renew call (h.takeGuard call) job
      · exact ⟨h.queueUp call, .suspended (.waiting job)⟩

lemma Provider.Alike.await (job : Job) (favoured : Bool) :
    L.Results (Progress.Alike IdentityToken.Alike) (p.await call job favoured s)
      (q.await call job favoured s') := by
  simp only [Provider.await, h.guard]
  split
  · exact alike.renew call (h.takeGuard call) job
  · exact ⟨h, .suspended (.waiting job)⟩

end

section

variable {p : Provider World Client} {q : Provider World' Client'} {s : Shared World}
variable {s' : Shared World'} (alike : p.Alike L q) (call : Nat) (host : String)
variable {token token' : IdentityToken} (tokens : token.Alike token') (h : s.Alike L s')

section

include tokens h

lemma Shared.Alike.pollExchange {answer answer' : Delayed (Except Cause (Option Secret))}
    (answers : ExchangeAnswer.Alike answer answer') :
    L.Results (Progress.Alike (Option.Rel Secret.Alike))
      (Provider.pollExchange call host token answer s)
      (Provider.pollExchange call host token' answer' s') := by
  have polled := h.record call .exchangePolled
  obtain ⟨pauses, outcome⟩ := answer
  obtain ⟨pauses', outcome'⟩ := answer'
  obtain ⟨rfl, outcomes⟩ := answers
  cases pauses with
  | succ pauses => exact ⟨polled, .suspended (.exchanging host tokens ⟨rfl, outcomes⟩)⟩
  | zero =>
    refine ⟨polled, .finished ?_⟩
    cases outcomes with
    | error cause => exact .error (.registryExchange cause)
    | ok refreshToken => exact .ok refreshToken

end

include alike

lemma Provider.Alike.exchangeRequest (token token' : IdentityToken) :
    (p.exchangeRequest host token).Alike (q.exchangeRequest host token') :=
  ⟨rfl, rfl, by simp only [Provider.exchangeRequest, alike.tenantId]⟩

include tokens h

lemma Provider.Alike.connect :
    L.Results (Progress.Alike (Option.Rel Secret.Alike)) (p.connect call host token s)
      (q.connect call host token' s') := by
  simp only [Provider.connect, alike.options]
  cases serverUrl host with
  | error error => exact ⟨h, .finished (.error (.clientConstruction rfl))⟩
  | ok server =>
    have building := h.record call (.building server q.options)
    obtain ⟨opened, worlds⟩ := alike.collaborators.openClient server q.options building.world
    simp only
    generalize p.collaborators.openClient server q.options _ = answer,
      q.collaborators.openClient server q.options _ = answer' at opened worlds ⊢
    obtain ⟨result, world⟩ := answer
    obtain ⟨result', world'⟩ := answer'
    cases opened with
    | error cause =>
      exact ⟨building.inWorld worlds, .finished (.error (.clientConstruction cause))⟩
    | ok clients =>
      have requests := alike.exchangeRequest host token token'
      have sent := (building.inWorld worlds).recordAlike call requests.diagnostic
      obtain ⟨answers, worlds⟩ := alike.collaborators.exchange clients requests sent.world
      exact (sent.inWorld worlds).pollExchange call host tokens answers

lemma Provider.Alike.issue {refreshToken refreshToken' : Option Secret}
    (answers : Option.Rel Secret.Alike refreshToken refreshToken') :
    L.Results (Progress.Alike Verdict.Alike) (p.issue call host token refreshToken s)
      (q.issue call host token' refreshToken' s') := by
  cases answers with
  | none => exact ⟨h, .finished (.error rfl)⟩
  | some =>
    have reported := (h.record call (.reported q.sink host)).record call (.exchanged host)
    have expiry : token.expiresOn = token'.expiresOn := tokens
    simp only [Provider.issue, alike.sink, expiry, reported.clock]
    cases Credential.earlierExpiry? token'.expiresOn _ with
    | none => exact ⟨reported, .overflowed _⟩
    | some expiresOn => exact ⟨reported, .finished (.ok (.issued ⟨rfl, rfl⟩))⟩

omit h in
lemma Provider.Alike.concludeExchange {r : Shared World × Progress (Option Secret)}
    {r' : Shared World' × Progress (Option Secret)}
    (results : L.Results (Progress.Alike (Option.Rel Secret.Alike)) r r') :
    L.Results (Progress.Alike Verdict.Alike) (p.concludeExchange call host token r)
      (q.concludeExchange call host token' r') := by
  obtain ⟨s, progress⟩ := r
  obtain ⟨s', progress'⟩ := r'
  obtain ⟨shared, outcome⟩ := results
  cases outcome with
  | suspended h => exact ⟨shared, .suspended h⟩
  | overflowed => exact ⟨shared, .overflowed _⟩
  | finished h =>
    cases h with
    | error h => exact ⟨shared.record call _, .finished (.error h)⟩
    | ok answer =>
      exact alike.issue call host tokens
        (shared.record call (.counted .registryExchange .success)) answer

lemma Provider.Alike.exchange :
    L.Results (Progress.Alike Verdict.Alike) (p.exchange call host token s)
      (q.exchange call host token' s') := by
  have opened := (h.record call (.opened .registryExchange)).record call
    (.counted .registryExchange .attempt)
  exact alike.concludeExchange call host tokens
    (opened.inside _ fun h => alike.connect call host tokens h)

end

section

variable {p : Provider World Client} {q : Provider World' Client'} (alike : p.Alike L q) (call : Nat)

lemma Progress.Alike.phaseOf {a b : Progress Verdict} (h : Progress.Alike Verdict.Alike a b) :
    (Provider.phaseOf a).Alike (Provider.phaseOf b) := by
  cases h with
  | suspended h => exact h
  | finished h => exact .returned h
  | overflowed stage => exact .overflowed stage

include alike in
lemma Provider.Alike.proceed (job : Job) {r : Shared World × Progress IdentityToken}
    {r' : Shared World' × Progress IdentityToken}
    (results : L.Results (Progress.Alike IdentityToken.Alike) r r') :
    L.Results (Progress.Alike Verdict.Alike) (p.proceed call job r) (q.proceed call job r') := by
  obtain ⟨s, progress⟩ := r
  obtain ⟨s', progress'⟩ := r'
  obtain ⟨shared, outcome⟩ := results
  cases outcome with
  | suspended h => exact ⟨shared, .suspended h⟩
  | overflowed => exact ⟨shared, .overflowed _⟩
  | finished h =>
    cases h with
    | error h => exact ⟨shared, .finished (.error h)⟩
    | ok tokens =>
      cases job with
      | warmUp => exact ⟨shared, .finished (.ok .primed)⟩
      | login host => exact alike.exchange call host tokens shared

lemma Likeness.Results.closeLogin {r : Shared World × Progress Verdict}
    {r' : Shared World' × Progress Verdict}
    (results : L.Results (Progress.Alike Verdict.Alike) r r') :
    L.Results Phase.Alike (Provider.closeLogin call r) (Provider.closeLogin call r') := by
  obtain ⟨s, progress⟩ := r
  obtain ⟨s', progress'⟩ := r'
  obtain ⟨shared, outcome⟩ := results
  refine ⟨?_, outcome.phaseOf⟩
  cases outcome with
  | suspended => exact shared
  | overflowed => exact shared
  | finished h =>
    cases h with
    | error => exact (shared.record call _).count _
    | ok => exact (shared.record call _).count _

section

variable {f : Shared World → Shared World × Progress Verdict}
variable {f' : Shared World' → Shared World' × Progress Verdict}
variable (step : ∀ {t t'}, t.Alike L t' → L.Results (Progress.Alike Verdict.Alike) (f t) (f' t'))
variable {s : Shared World} {s' : Shared World'} (h : s.Alike L s')
include step h

lemma Shared.Alike.asLogin :
    L.Results Phase.Alike (Provider.asLogin call f s) (Provider.asLogin call f' s') :=
  (h.inside _ step).closeLogin call

lemma Shared.Alike.asJob (job : Job) :
    L.Results Phase.Alike (Provider.asJob call job f s) (Provider.asJob call job f' s') := by
  cases job with
  | warmUp =>
    obtain ⟨shared, outcome⟩ := step h
    exact ⟨shared, outcome.phaseOf⟩
  | login host => exact h.asLogin call step

end

variable {s : Shared World} {s' : Shared World'} (h : s.Alike L s')

section

include alike h

lemma Provider.Alike.resolve (reference : String) (favoured : Bool) :
    L.Results (Progress.Alike Verdict.Alike) (p.resolve call reference favoured s)
      (q.resolve call reference favoured s') := by
  have resolving := h.record call (.resolving reference)
  simp only [Provider.resolve, alike.collaborators.resolveHost]
  cases q.collaborators.resolveHost reference with
  | error error => exact ⟨resolving, .finished (.error rfl)⟩
  | ok host => exact alike.proceed call _ (alike.seek call resolving _ favoured)

lemma Provider.Alike.start (errand : Errand) (favoured : Bool) :
    L.Results Phase.Alike (p.start call errand favoured s) (q.start call errand favoured s') := by
  cases errand with
  | prime =>
    exact h.asJob call (fun h => alike.proceed call _ (alike.seek call h _ favoured)) .warmUp
  | provide reference =>
    have opened := ((h.record call (.opened .provide)).record call
      (.counted .provide .attempt)).count .attempt
    exact opened.asLogin call fun h => alike.resolve call h reference favoured

lemma Provider.Alike.poll {phase phase' : Phase} (phases : phase.Alike phase') (favoured : Bool) :
    L.Results Phase.Alike (p.poll call phase favoured s) (q.poll call phase' favoured s') := by
  cases phases with
  | waiting job =>
    exact h.asJob call (fun h => alike.proceed call _ (alike.await call h job favoured)) job
  | refreshing job answers =>
    exact h.asJob call (fun h => alike.proceed call _ (h.pollSource call job answers)) job
  | exchanging host tokens answers =>
    exact h.asLogin call fun h => alike.concludeExchange call host tokens
      (h.inside _ fun h => h.pollExchange call host tokens answers)
  | returned results => exact ⟨h, .returned results⟩
  | overflowed stage => exact ⟨h, .overflowed stage⟩
  | cancelled stage => exact ⟨h, .cancelled stage⟩

end

include h in
lemma Shared.Alike.cancel {phase phase' : Phase} (phases : phase.Alike phase') :
    L.Results Phase.Alike (Provider.cancel call phase s) (Provider.cancel call phase' s') := by
  cases phases with
  | waiting job =>
    rw [Provider.cancel_waiting, Provider.cancel_waiting]
    exact ⟨h.leaveQueue call, .cancelled _⟩
  | refreshing job answers =>
    rw [Provider.cancel_refreshing, Provider.cancel_refreshing]
    exact ⟨h.releaseGuard, .cancelled _⟩
  | exchanging host tokens answers => exact ⟨h, .cancelled _⟩
  | returned results => exact ⟨h, .returned results⟩
  | overflowed stage => exact ⟨h, .overflowed stage⟩
  | cancelled stage => exact ⟨h, .cancelled stage⟩

end

section

variable {α β : Type} {R : α → β → Prop} {as : List α} {bs : List β}

lemma forall₂_getElem? (h : List.Forall₂ R as bs) (i : Nat) : Option.Rel R as[i]? bs[i]? := by
  induction h generalizing i with
  | nil => exact .none
  | cons head _ ih =>
    cases i with
    | zero => exact .some head
    | succ i => exact ih i

lemma forall₂_set (h : List.Forall₂ R as bs) (i : Nat) {a : α} {b : β} (hab : R a b) :
    List.Forall₂ R (as.set i a) (bs.set i b) := by
  induction h generalizing i with
  | nil => exact .nil
  | cons head tail ih =>
    cases i with
    | zero => exact .cons hab tail
    | succ i => exact .cons head (ih i)

end

namespace Session

variable {p : Provider World Client} {q : Provider World' Client'} (alike : p.Alike L q)

lemma ofSeed_alike {seed seed' : TokenCache} (seeds : seed.Alike seed') (clock : Instant)
    {world : World} {world' : World'} (worlds : L.worlds world world') :
    (ofSeed seed clock world).Alike L (ofSeed seed' clock world') :=
  ⟨⟨seeds, rfl, rfl, rfl, rfl, rfl, worlds⟩, .nil⟩

variable {s : Session World} {s' : Session World'} (h : s.Alike L s')
include h

lemma Alike.onCall (id : Nat) {f : Phase → Shared World → Shared World × Phase}
    {f' : Phase → Shared World' → Shared World' × Phase}
    (step : ∀ {phase phase'}, phase.Alike phase' →
      L.Results Phase.Alike (f phase s.shared) (f' phase' s'.shared)) :
    (s.onCall f id).Alike L (s'.onCall f' id) := by
  have calls := forall₂_getElem? h.calls id
  simp only [Session.onCall]
  generalize s.calls[id]? = call?, s'.calls[id]? = call'? at calls ⊢
  cases calls with
  | none => exact h
  | some call =>
    obtain ⟨shared, phase⟩ := step call.phase
    exact ⟨shared, forall₂_set h.calls id ⟨call.errand, phase⟩⟩

include alike

lemma Alike.move (m : Move) : (s.move p m).Alike L (s'.move q m) := by
  cases m with
  | start errand favoured =>
    have number := h.calls.length_eq
    obtain ⟨shared, phase⟩ := alike.start s'.calls.length h.shared errand favoured
    simp only [Session.move, number]
    exact ⟨shared, List.rel_append h.calls (.cons ⟨rfl, phase⟩ .nil)⟩
  | poll id favoured => exact h.onCall id fun phases => alike.poll id h.shared phases favoured
  | cancel id => exact h.onCall id fun phases => h.shared.cancel id phases
  | turn clock => exact ⟨h.shared.turn clock, h.calls⟩

lemma Alike.run (moves : List Move) : (s.run p moves).Alike L (s'.run q moves) := by
  induction moves generalizing s s' with
  | nil => exact h
  | cons m moves ih => exact ih (h.move alike m)

end Session

end RegistryLogin
