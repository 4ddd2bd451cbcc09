import RegistryLogin.Provider.Session
import Mathlib.Tactic.Lemma

/-! The side of the shared state that belongs to the identity token. -/

namespace RegistryLogin

inductive Contact
  | asked (call : Nat) (request : IdentityRequest)
  | polled (call : Nat)
deriving DecidableEq

def Contact.question? : Contact → Option (Nat × IdentityRequest)
  | .asked call request => some (call, request)
  | .polled _ => none

lemma Contact.questions_asked (contacts : List Contact) (call : Nat) (request : IdentityRequest) :
    (contacts ++ [asked call request]).filterMap question? =
      contacts.filterMap question? ++ [(call, request)] := by
  simp [question?]

lemma Contact.questions_polled (contacts : List Contact) (call : Nat) :
    (contacts ++ [polled call]).filterMap question? = contacts.filterMap question? := by
  simp [question?]

def Event.contact? (call : Nat) : Event → Option Contact
  | .asked request => some (.asked call request)
  | .sourcePolled => some (.polled call)
  | _ => none

structure IdentitySide (World : Type) where
  cache : TokenCache
  guard : Guard
  clock : Instant
  hits : UInt64
  refreshes : UInt64
  refreshFailures : UInt64
  contacts : List Contact
  world : World

namespace IdentitySide

variable {World : Type}

def meet (contact : Contact) (x : IdentitySide World) : IdentitySide World :=
  { x with contacts := x.contacts ++ [contact] }

def takenBy (call : Nat) (x : IdentitySide World) : IdentitySide World :=
  { x with guard := ⟨some call, x.guard.queue.erase call⟩ }

def released (x : IdentitySide World) : IdentitySide World :=
  { x with guard := { x.guard with holder := none } }

def joinedBy (call : Nat) (x : IdentitySide World) : IdentitySide World :=
  { x with guard := { x.guard with queue := x.guard.queue ++ [call] } }

def inWorld (world : World) (x : IdentitySide World) : IdentitySide World := { x with world := world }

def hit (x : IdentitySide World) : IdentitySide World := { x with hits := x.hits + 1 }

def failed (x : IdentitySide World) : IdentitySide World :=
  { x with refreshFailures := x.refreshFailures + 1 }

def renewed (token : IdentityToken) (x : IdentitySide World) : IdentitySide World :=
  { x with
    cache := ⟨some token⟩
    refreshes := x.refreshes + 1 }

end IdentitySide

namespace Shared

variable {World : Type} (s : Shared World)

def contacts : List Contact := s.trace.filterMap fun entry => entry.event.contact? entry.call

def side : IdentitySide World :=
  ⟨s.cache, s.guard, s.clock, s.tally.cacheHits, s.tally.identityRefreshes,
    s.tally.identityRefreshFailures, s.contacts, s.world⟩

def inWorld (world : World) : Shared World := { s with world := world }

@[simp] lemma side_inWorld (world : World) : (s.inWorld world).side = s.side.inWorld world := rfl

@[simp] lemma side_record (call : Nat) (event : Event) :
    (s.record call event).side = (event.contact? call).elim s.side s.side.meet := by
  cases h : event.contact? call <;> simp [side, contacts, record, h, IdentitySide.meet]

@[simp] lemma side_attempt : (s.count .attempt).side = s.side := rfl

@[simp] lemma side_succeed : (s.count .succeed).side = s.side := rfl

@[simp] lemma side_fail : (s.count .fail).side = s.side := rfl

@[simp] lemma side_hit : (s.count .hit).side = s.side.hit := rfl

@[simp] lemma side_failRefresh : (s.count .failRefresh).side = s.side.failed := rfl

@[simp] lemma side_refresh (token : IdentityToken) :
    ((s.store token).count .refresh).side = s.side.renewed token := rfl

@[simp] lemma side_takeGuard (call : Nat) : (s.takeGuard call).side = s.side.takenBy call := rfl

@[simp] lemma side_releaseGuard : s.releaseGuard.side = s.side.released := rfl

@[simp] lemma side_queueUp (call : Nat) : (s.queueUp call).side = s.side.joinedBy call := rfl

@[simp] lemma side_inside {α : Type} (span : Span) (f : Shared World → Shared World × α) :
    (s.inside span f).1.side = (f { s with entered := span :: s.entered }).1.side := rfl

end Shared

/-- How a call stands to the guard: it waits for it, holds it while the source answers, or neither. -/
inductive Standing
  | away
  | queued
  | asking (answer : Delayed (Except Cause Issued))

def Phase.standing : Phase → Standing
  | .waiting _ => .queued
  | .refreshing _ answer => .asking answer
  | .exchanging _ _ _ => .away
  | .done _ => .away

namespace Provider

variable {World Client : Type} (p : Provider World Client) (call : Nat) (job : Job)

def freshFor (x : IdentitySide World) : Option (Option IdentityToken) :=
  x.cache.freshAt? x.clock p.margin.duration

def answerIn (world : World) : Delayed (Except Cause Issued) :=
  (p.collaborators.requestIdentity p.identityRequest world).1

def asked (x : IdentitySide World) : IdentitySide World :=
  (x.meet (.asked call p.identityRequest)).inWorld
    (p.collaborators.requestIdentity p.identityRequest x.world).2

inductive Heard (x : IdentitySide World) :
    Delayed (Except Cause Issued) → IdentitySide World → Progress IdentityToken → Prop
  | pending (pauses : Nat) (outcome : Except Cause Issued) :
    Heard x ⟨pauses + 1, outcome⟩ (x.meet (.polled call))
      (.suspended (.refreshing job ⟨pauses, outcome⟩))
  | failed (cause : Cause) :
    Heard x ⟨0, .error cause⟩ (x.meet (.polled call)).failed.released
      (.finished (.error (.identityRefresh cause)))
  | panicked (issued : Issued) (h : issued.token? x.clock = none) :
    Heard x ⟨0, .ok issued⟩ (x.meet (.polled call)).released (.overflowed .identity)
  | returned (issued : Issued) (token : IdentityToken) (h : issued.token? x.clock = some token) :
    Heard x ⟨0, .ok issued⟩ ((x.meet (.polled call)).renewed token).released (.finished (.ok token))

inductive Renewed (x : IdentitySide World) : IdentitySide World → Progress IdentityToken → Prop
  | overflowed (h : p.freshFor x = none) : Renewed x x.released (.overflowed .identity)
  | reused (token : IdentityToken) (h : p.freshFor x = some (some token)) :
    Renewed x x.hit.released (.finished (.ok token))
  | asked {y : IdentitySide World} {r : Progress IdentityToken} (h : p.freshFor x = some none)
      (heard : Heard call job (p.asked call x) (p.answerIn x.world) y r) : Renewed x y r

inductive Sought (favoured : Bool) (x : IdentitySide World) :
    Standing → IdentitySide World → Progress IdentityToken → Prop
  | overflowed (h : p.freshFor x = none) : Sought favoured x .away x (.overflowed .identity)
  | reused (token : IdentityToken) (h : p.freshFor x = some (some token)) :
    Sought favoured x .away x.hit (.finished (.ok token))
  | queued (h : p.freshFor x = some none) (busy : x.guard.admits call favoured = false) :
    Sought favoured x .away (x.joinedBy call) (.suspended (.waiting job))
  | entered {y : IdentitySide World} {r : Progress IdentityToken} (h : p.freshFor x = some none)
      (free : x.guard.admits call favoured = true)
      (renewed : Renewed p call job (x.takenBy call) y r) : Sought favoured x .away y r
  | waited (busy : x.guard.admits call favoured = false) :
    Sought favoured x .queued x (.suspended (.waiting job))
  | admitted {y : IdentitySide World} {r : Progress IdentityToken}
      (free : x.guard.admits call favoured = true)
      (renewed : Renewed p call job (x.takenBy call) y r) : Sought favoured x .queued y r
  | heard {y : IdentitySide World} {r : Progress IdentityToken}
      {answer : Delayed (Except Cause Issued)} (heard : Heard call job x answer y r) :
    Sought favoured x (.asking answer) y r

lemma settle_heard {s : Shared World} {x : IdentitySide World}
    (h : s.side = x.meet (.polled call)) (outcome : Except Cause Issued) :
    Heard call job x ⟨0, outcome⟩ (settle call outcome s).1.side (settle call outcome s).2 := by
  have hc : s.clock = x.clock := congrArg IdentitySide.clock h
  cases outcome with
  | error cause => simpa [settle, Event.contact?, h] using Heard.failed cause
  | ok issued =>
    cases ht : issued.token? x.clock with
    | none => simpa [settle, hc, ht, h] using Heard.panicked issued ht
    | some token => simpa [settle, hc, ht, Event.contact?, h] using Heard.returned issued token ht

lemma pollSource_heard (answer : Delayed (Except Cause Issued)) (s : Shared World) :
    Heard call job s.side answer (pollSource call job answer s).1.side
      (pollSource call job answer s).2 := by
  obtain ⟨pauses, outcome⟩ := answer
  have h : (s.inside ⟨call, .identityRefresh⟩ fun s => (s.record call .sourcePolled, ())).1.side =
      s.side.meet (.polled call) := by simp [Event.contact?]; rfl
  cases pauses with
  | succ pauses => exact h ▸ Heard.pending pauses outcome
  | zero => exact settle_heard call job h outcome

lemma refresh_heard (s : Shared World) :
    Heard call job (p.asked call s.side) (p.answerIn s.world) (p.refresh call job s).1.side
      (p.refresh call job s).2 := by
  let t := (((s.record call (.opened .identityRefresh)).record call
    (.counted .identityRefresh .attempt)).record call (.asked p.identityRequest)).inWorld
      (p.collaborators.requestIdentity p.identityRequest s.world).2
  have ht : t.side = p.asked call s.side := by
    simp only [t, Shared.side_inWorld, Shared.side_record, Event.contact?, Option.elim]
    rfl
  exact ht ▸ pollSource_heard call job (p.answerIn s.world) t

variable (favoured : Bool)

lemma renew_renewed (s : Shared World) :
    Renewed p call job s.side (p.renew call job s).1.side (p.renew call job s).2 := by
  have hs : p.fresh? s = p.freshFor s.side := rfl
  cases h : p.freshFor s.side with
  | none => simpa [renew, hs, h] using Renewed.overflowed h
  | some found =>
    cases found with
    | some token => simpa [renew, hs, h] using Renewed.reused token h
    | none =>
      simp only [renew, hs, h]
      exact .asked h (p.refresh_heard call job s)

lemma seek_sought (s : Shared World) :
    Sought p call job favoured s.side .away (p.seek call job favoured s).1.side
      (p.seek call job favoured s).2 := by
  have hs : p.fresh? s = p.freshFor s.side := rfl
  cases h : p.freshFor s.side with
  | none => simpa [seek, hs, h] using Sought.overflowed h
  | some found =>
    cases found with
    | some token => simpa [seek, hs, h] using Sought.reused token h
    | none =>
      cases ha : s.guard.admits call favoured with
      | false => simpa [seek, hs, h, ha] using Sought.queued h ha
      | true =>
        simp only [seek, hs, h, ha]
        exact .entered h ha (renew_renewed p call job (s.takeGuard call))

lemma await_sought (s : Shared World) :
    Sought p call job favoured s.side .queued (p.await call job favoured s).1.side
      (p.await call job favoured s).2 := by
  cases ha : s.guard.admits call favoured with
  | false => simpa [await, ha] using Sought.waited ha
  | true =>
    simp only [await, ha]
    exact .admitted ha (renew_renewed p call job (s.takeGuard call))

end Provider

end RegistryLogin
