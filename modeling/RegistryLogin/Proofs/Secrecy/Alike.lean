import Mathlib.Data.List.Forall2
import RegistryLogin.Provider.Diagnostics

/-! Values that differ in the texts of secrets only, and what is shown of them. -/

inductive Except.Rel {ε ε' α α' : Type} (E : ε → ε' → Prop) (A : α → α' → Prop) :
    Except ε α → Except ε' α' → Prop
  | error {e : ε} {e' : ε'} (h : E e e') : Except.Rel E A (.error e) (.error e')
  | ok {a : α} {a' : α'} (h : A a a') : Except.Rel E A (.ok a) (.ok a')

lemma Except.Rel.refl {ε α : Type} {E : ε → ε → Prop} {A : α → α → Prop} (hE : ∀ e, E e e)
    (hA : ∀ a, A a a) (x : Except ε α) : Except.Rel E A x x := by
  cases x with
  | error e => exact .error (hE e)
  | ok a => exact .ok (hA a)

namespace RegistryLogin

def Secret.Alike (_ _ : Secret) : Prop := True

lemma Secret.outline_eq (a b : Secret) : a.outline = b.outline := rfl

lemma Secret.texts_eq (a b : Secret) : a.texts = b.texts := rfl

def IdentityToken.Alike (a b : IdentityToken) : Prop := a.expiresOn = b.expiresOn

namespace IdentityToken.Alike

variable {a b : IdentityToken} (h : a.Alike b)
include h

lemma outline : a.outline = b.outline := by
  have hx : a.expiresOn = b.expiresOn := h
  simp only [IdentityToken.outline, hx]

lemma texts : a.texts = b.texts := by
  simp only [IdentityToken.texts, h.outline, Secret.texts_eq a.accessToken b.accessToken]

lemma isStaleAt? (now : Instant) (margin : Duration) :
    a.isStaleAt? now margin = b.isStaleAt? now margin := by
  have hx : a.expiresOn = b.expiresOn := h
  simp only [IdentityToken.isStaleAt?, hx]

end IdentityToken.Alike

def TokenCache.Alike (a b : TokenCache) : Prop := Option.Rel IdentityToken.Alike a.current b.current

namespace TokenCache.Alike

variable {a b : TokenCache} (h : a.Alike b)
include h

lemma outline : a.outline = b.outline := by
  obtain ⟨current⟩ := a
  obtain ⟨current'⟩ := b
  cases h with
  | none => rfl
  | some h => simp only [TokenCache.outline, Text.Outline.ofOption, h.outline]

lemma texts : a.current.map IdentityToken.texts = b.current.map IdentityToken.texts := by
  obtain ⟨current⟩ := a
  obtain ⟨current'⟩ := b
  cases h with
  | none => rfl
  | some h => simp only [Option.map_some, h.texts]

lemma freshAt? (now : Instant) (margin : Duration) :
    Option.Rel (Option.Rel IdentityToken.Alike) (a.freshAt? now margin) (b.freshAt? now margin) := by
  obtain ⟨current⟩ := a
  obtain ⟨current'⟩ := b
  cases h with
  | none => exact .some .none
  | @some token token' h =>
    simp only [TokenCache.freshAt?, h.isStaleAt?]
    rcases token'.isStaleAt? now margin with _ | _ | _
    · exact .none
    · exact .some (.some h)
    · exact .some .none

end TokenCache.Alike

inductive Issued.Alike : Issued → Issued → Prop
  | expiring (a b : Secret) (expiresOn : Instant) :
    Issued.Alike (.expiring a expiresOn) (.expiring b expiresOn)
  | lasting (a b : Secret) (lifetime : Duration) :
    Issued.Alike (.lasting a lifetime) (.lasting b lifetime)

lemma Issued.Alike.token? {a b : Issued} (h : a.Alike b) (now : Instant) :
    Option.Rel IdentityToken.Alike (a.token? now) (b.token? now) := by
  cases h with
  | expiring => exact .some rfl
  | lasting a b lifetime =>
    simp only [Issued.token?]
    cases now.add? lifetime with
    | none => exact .none
    | some => exact .some rfl

structure Credential.Alike (a b : Credential) : Prop where
  username : a.username = b.username
  expiresOn : a.expiresOn = b.expiresOn

lemma Credential.Alike.texts {a b : Credential} (h : a.Alike b) : a.texts = b.texts := by
  simp only [Credential.texts, Credential.outline, h.username, h.expiresOn,
    Secret.texts_eq a.password b.password]

/-- What a cause keeps to itself, such as the preview of a body, may differ as well. -/
def Cause.Alike (a b : Cause) : Prop := a.text = b.text

def LoginError.Alike (a b : LoginError) : Prop := a.texts = b.texts

namespace LoginError.Alike

variable {a b : Cause} (h : a.Alike b)
include h

lemma identityRefresh : LoginError.Alike (.identityRefresh a) (.identityRefresh b) :=
  congrArg (fun source => FailureTexts.mk _ (some source)) h

lemma clientConstruction : LoginError.Alike (.clientConstruction a) (.clientConstruction b) :=
  congrArg (fun source => FailureTexts.mk _ (some source)) h

lemma registryExchange : LoginError.Alike (.registryExchange a) (.registryExchange b) :=
  congrArg (fun source => FailureTexts.mk _ (some source)) h

end LoginError.Alike

inductive Verdict.Alike : Verdict → Verdict → Prop
  | primed : Verdict.Alike .primed .primed
  | issued {a b : Credential} (h : a.Alike b) : Verdict.Alike (.issued a) (.issued b)

structure Delayed.Alike {α : Type} (R : α → α → Prop) (a b : Delayed α) : Prop where
  pauses : a.pauses = b.pauses
  outcome : R a.outcome b.outcome

abbrev IdentityAnswer.Alike : Delayed (Except Cause Issued) → Delayed (Except Cause Issued) → Prop :=
  Delayed.Alike (Except.Rel Cause.Alike Issued.Alike)

abbrev ExchangeAnswer.Alike :
    Delayed (Except Cause (Option Secret)) → Delayed (Except Cause (Option Secret)) → Prop :=
  Delayed.Alike (Except.Rel Cause.Alike (Option.Rel Secret.Alike))

lemma ExchangeResponse.outline_eq {a b : Option Secret} (h : Option.Rel Secret.Alike a b) :
    ExchangeResponse.outline a = ExchangeResponse.outline b := by
  cases h <;> rfl

structure ExchangeRequest.Alike (a b : ExchangeRequest) : Prop where
  grantType : a.grantType = b.grantType
  service : a.service = b.service
  tenant : a.tenant = b.tenant

lemma ExchangeRequest.Alike.outline {a b : ExchangeRequest} (h : a.Alike b) :
    a.outline = b.outline := by
  simp only [ExchangeRequest.outline, h.grantType, h.service, h.tenant,
    Secret.outline_eq a.accessToken b.accessToken]

lemma ExchangeRequest.Alike.diagnostic {a b : ExchangeRequest} (h : a.Alike b) :
    (Event.exchanging a).diagnostic = (Event.exchanging b).diagnostic := by
  simp only [Event.diagnostic, h.outline, Secret.texts_eq a.accessToken b.accessToken]

inductive Phase.Alike : Phase → Phase → Prop
  | waiting (job : Job) : Phase.Alike (.waiting job) (.waiting job)
  | refreshing (job : Job) {a b : Delayed (Except Cause Issued)} (h : IdentityAnswer.Alike a b) :
    Phase.Alike (.refreshing job a) (.refreshing job b)
  | exchanging (host : String) {token token' : IdentityToken} (h : token.Alike token')
      {a b : Delayed (Except Cause (Option Secret))} (answers : ExchangeAnswer.Alike a b) :
    Phase.Alike (.exchanging host token a) (.exchanging host token' b)
  | returned {a b : Except LoginError Verdict} (h : Except.Rel LoginError.Alike Verdict.Alike a b) :
    Phase.Alike (.done (.returned a)) (.done (.returned b))
  | overflowed (stage : Stage) : Phase.Alike (.done (.overflowed stage)) (.done (.overflowed stage))
  | cancelled (stage : Stage) : Phase.Alike (.done (.cancelled stage)) (.done (.cancelled stage))

lemma Phase.Alike.diagnostics {a b : Phase} (h : a.Alike b) : a.diagnostics = b.diagnostics := by
  cases h with
  | waiting => rfl
  | refreshing => rfl
  | @exchanging host token token' h a b answers =>
    obtain ⟨pauses, outcome⟩ := a
    obtain ⟨pauses', outcome'⟩ := b
    obtain ⟨-, outcomes⟩ := answers
    cases outcomes with
    | error cause => exact congrArg₂ (PhaseDiagnostics.exchanging host · <| .error ·) h.texts cause
    | ok answer =>
      simp only [Phase.diagnostics, h.texts, ExchangeResponse.outline_eq answer]
  | returned h =>
    cases h with
    | error h => exact congrArg PhaseDiagnostics.failed h
    | ok h =>
      cases h with
      | primed => rfl
      | @issued a b h =>
        have response : ExchangeResponse.outline a.password = ExchangeResponse.outline b.password :=
          ExchangeResponse.outline_eq (.some trivial)
        simp only [Phase.diagnostics, h.texts, response]
  | overflowed => rfl
  | cancelled => rfl

structure Call.Alike (a b : Call) : Prop where
  errand : a.errand = b.errand
  phase : a.phase.Alike b.phase

lemma Call.Alike.diagnostics {a b : Call} (h : a.Alike b) : a.diagnostics = b.diagnostics := by
  simp only [Call.diagnostics, h.errand, h.phase.diagnostics]

structure Likeness (World World' Client Client' : Type) where
  worlds : World → World' → Prop
  clients : Client → Client' → Prop

variable {World World' Client Client' : Type} (L : Likeness World World' Client Client')

structure Collaborators.Alike (a : Collaborators World Client) (b : Collaborators World' Client') :
    Prop where
  resolveHost (reference : String) : a.resolveHost reference = b.resolveHost reference
  requestIdentity (request : IdentityRequest) {w : World} {w' : World'} (h : L.worlds w w') :
    IdentityAnswer.Alike (a.requestIdentity request w).1 (b.requestIdentity request w').1 ∧
      L.worlds (a.requestIdentity request w).2 (b.requestIdentity request w').2
  openClient (server : Url) (options : ClientOptions) {w : World} {w' : World'}
    (h : L.worlds w w') :
    Except.Rel Cause.Alike L.clients (a.openClient server options w).1
        (b.openClient server options w').1 ∧
      L.worlds (a.openClient server options w).2 (b.openClient server options w').2
  exchange {client : Client} {client' : Client'} (clients : L.clients client client')
    {request request' : ExchangeRequest} (requests : request.Alike request')
    {w : World} {w' : World'} (h : L.worlds w w') :
    ExchangeAnswer.Alike (a.exchange client request w).1 (b.exchange client' request' w').1 ∧
      L.worlds (a.exchange client request w).2 (b.exchange client' request' w').2

structure Provider.Alike (p : Provider World Client) (q : Provider World' Client') : Prop where
  tenantId : p.tenantId = q.tenantId
  clientId : p.clientId = q.clientId
  options : p.options = q.options
  margin : p.margin = q.margin
  sink : p.sink = q.sink
  collaborators : p.collaborators.Alike L q.collaborators

/-- A trace is only written to, so no more is asked of it than that it shows the same. -/
structure Shared.Alike (s : Shared World) (s' : Shared World') : Prop where
  cache : s.cache.Alike s'.cache
  guard : s.guard = s'.guard
  tally : s.tally = s'.tally
  clock : s.clock = s'.clock
  entered : s.entered = s'.entered
  trace : s.trace.map Entry.diagnostics = s'.trace.map Entry.diagnostics
  world : L.worlds s.world s'.world

structure Session.Alike (s : Session World) (s' : Session World') : Prop where
  shared : s.shared.Alike L s'.shared
  calls : List.Forall₂ Call.Alike s.calls s'.calls

section

variable {L} {p : Provider World Client} {q : Provider World' Client'}
variable {s : Session World} {s' : Session World'}

lemma Provider.Alike.outline (h : p.Alike L q) {a b : TokenCache} (caches : a.Alike b) :
    p.outline a = q.outline b := by
  simp only [Provider.outline, h.tenantId, h.clientId, h.options, h.margin, caches.outline]

lemma Session.Alike.diagnostics (h : s.Alike L s') (alike : p.Alike L q) :
    s.diagnostics p = s'.diagnostics q := by
  have calls : s.calls.map Call.diagnostics = s'.calls.map Call.diagnostics := by
    rw [← List.forall₂_eq_eq_eq, List.forall₂_map_left_iff, List.forall₂_map_right_iff]
    exact h.calls.imp fun _ _ => Call.Alike.diagnostics
  have cache := h.shared.cache
  simp only [Session.diagnostics, alike.outline cache, cache.outline, cache.texts, h.shared.tally,
    h.shared.trace, calls]

end

end RegistryLogin
