import RegistryLogin.Proofs.Secrecy.Simulation
import RegistryLogin.Provider.Rehearsal

namespace RegistryLogin

lemma Issued.Alike.refl (issued : Issued) : issued.Alike issued := by
  cases issued with
  | expiring secret expiresOn => exact .expiring secret secret expiresOn
  | lasting secret lifetime => exact .lasting secret secret lifetime

lemma IdentityAnswer.Alike.refl (answer : Delayed (Except Cause Issued)) :
    IdentityAnswer.Alike answer answer :=
  ⟨rfl, Except.Rel.refl (E := Cause.Alike) (fun _ => rfl) Issued.Alike.refl _⟩

inductive RegistryLine.Alike : RegistryLine → RegistryLine → Prop
  | noClient {a b : Cause} (h : a.Alike b) : RegistryLine.Alike (.noClient a) (.noClient b)
  | client {a b : Delayed (Except Cause (Option Secret))} (h : ExchangeAnswer.Alike a b) :
    RegistryLine.Alike (.client a) (.client b)

structure Script.Alike (a b : Script) : Prop where
  identity : List.Forall₂ IdentityAnswer.Alike a.identity b.identity
  registry : List.Forall₂ RegistryLine.Alike a.registry b.registry
  around : a.around = b.around

inductive RehearsalClient.Alike : RehearsalClient → RehearsalClient → Prop
  | scripted {a b : Delayed (Except Cause (Option Secret))} (h : ExchangeAnswer.Alike a b) :
    RehearsalClient.Alike (.scripted a) (.scripted b)

namespace Rehearsal

def likeness : Likeness Script Script RehearsalClient RehearsalClient :=
  ⟨Script.Alike, RehearsalClient.Alike⟩

variable (r : Rehearsal) {script script' : Script} (h : script.Alike script')
include h

lemma requestIdentity_alike (request : IdentityRequest) :
    IdentityAnswer.Alike (r.requestIdentity request script).1 (r.requestIdentity request script').1 ∧
      (r.requestIdentity request script).2.Alike (r.requestIdentity request script').2 := by
  obtain ⟨hosts, identity, registry⟩ := r
  cases identity with
  | federated source =>
    simp only [Rehearsal.requestIdentity, h.around]
    exact ⟨.refl _, h.identity, h.registry, rfl⟩
  | scripted =>
    obtain ⟨answers, lines, around⟩ := script
    obtain ⟨answers', lines', around'⟩ := script'
    obtain ⟨answers, lines, rfl⟩ := h
    cases answers with
    | nil => exact ⟨.refl _, .nil, lines, rfl⟩
    | cons answer rest => exact ⟨answer, rest, lines, rfl⟩

lemma openClient_alike (scripted : r.registry = .scripted) (server : Url) (options : ClientOptions) :
    Except.Rel Cause.Alike RehearsalClient.Alike (r.openClient server options script).1
        (r.openClient server options script').1 ∧
      (r.openClient server options script).2.Alike (r.openClient server options script').2 := by
  obtain ⟨answers, lines, around⟩ := script
  obtain ⟨answers', lines', around'⟩ := script'
  obtain ⟨answers, lines, rfl⟩ := h
  simp only [Rehearsal.openClient, scripted]
  cases lines with
  | nil => exact ⟨.error rfl, answers, .nil, rfl⟩
  | cons line rest =>
    cases line with
    | noClient cause => exact ⟨.error cause, answers, rest, rfl⟩
    | client answer => exact ⟨.ok (.scripted answer), answers, rest, rfl⟩

omit h in
lemma collaborators_alike (scripted : r.registry = .scripted) :
    r.collaborators.Alike likeness r.collaborators where
  resolveHost _ := rfl
  requestIdentity request {_ _} h := r.requestIdentity_alike h request
  openClient server options {_ _} h := r.openClient_alike h scripted server options
  exchange {_ _} clients {_ _} _ {_ _} h := by
    cases clients with
    | scripted answers => exact ⟨answers, h⟩

end Rehearsal

namespace Session

variable {World World' Client Client' : Type} {L : Likeness World World' Client Client'}

/-- Nothing that is shown depends on the text of a secret, however the calls are polled and given up. -/
theorem diagnostics_hide_secrets {p : Provider World Client} {q : Provider World' Client'}
    (alike : p.Alike L q) {seed seed' : TokenCache} (seeds : seed.Alike seed') (clock : Instant)
    {world : World} {world' : World'} (worlds : L.worlds world world') (moves : List Move) :
    ((ofSeed seed clock world).run p moves).diagnostics p =
      ((ofSeed seed' clock world').run q moves).diagnostics q :=
  ((ofSeed_alike seeds clock worlds).run alike moves).diagnostics alike

end Session

namespace Rehearsal

def scripted : Rehearsal := ⟨.references, .scripted, .scripted⟩

def provider (r : Rehearsal) : Provider Script RehearsalClient :=
  ⟨"tenant", "client", .default, .default, .histogram, r.collaborators⟩

end Rehearsal

def Script.single (accessToken refreshToken : Secret) (present : Instant) : Script :=
  ⟨[⟨1, .ok (.lasting accessToken Credential.lifetime)⟩], [.client ⟨1, .ok (some refreshToken)⟩],
    ⟨.ofWorking [], .unreachable, present, []⟩⟩

lemma Script.single_alike (a b refresh refresh' : Secret) (present : Instant) :
    (single a refresh present).Alike (single b refresh' present) :=
  ⟨.cons ⟨rfl, .ok (.lasting a b _)⟩ .nil, .cons (.client ⟨rfl, .ok (.some trivial)⟩) .nil, rfl⟩

namespace Session

theorem diagnostics_hide_secrets_rehearsed :
    let p := Rehearsal.scripted.provider
    let epoch : Instant := ⟨0, .utc, by decide, by decide⟩
    let moves : List Move :=
      [.start (.provide "myregistry.azurecr.io/app") false, .poll 0 false, .poll 0 false]
    let s := ofSeed ⟨some ⟨⟨"seeded"⟩, epoch⟩⟩ epoch (Script.single ⟨"issued"⟩ ⟨"refresh"⟩ epoch)
    let s' := ofSeed ⟨some ⟨⟨"planted"⟩, epoch⟩⟩ epoch (Script.single ⟨"granted"⟩ .empty epoch)
    (s.run p moves).shared.cache.current.map (·.accessToken) = some ⟨"issued"⟩ ∧
      (s'.run p moves).shared.cache.current.map (·.accessToken) = some ⟨"granted"⟩ ∧
      (s.run p moves).diagnostics p = (s'.run p moves).diagnostics p := by
  intro p epoch moves s s'
  have alike : p.Alike Rehearsal.likeness p :=
    ⟨rfl, rfl, rfl, rfl, rfl, Rehearsal.scripted.collaborators_alike rfl⟩
  have seeds : TokenCache.Alike ⟨some ⟨⟨"seeded"⟩, epoch⟩⟩ ⟨some ⟨⟨"planted"⟩, epoch⟩⟩ := .some rfl
  have scripts : Rehearsal.likeness.worlds (.single ⟨"issued"⟩ ⟨"refresh"⟩ epoch)
    (.single ⟨"granted"⟩ .empty epoch) := Script.single_alike ..
  exact ⟨by decide +kernel, by decide +kernel,
    diagnostics_hide_secrets alike seeds epoch scripts moves⟩

end Session

end RegistryLogin
