import RegistryLogin.Proofs.Record.Outcomes
import RegistryLogin.Proofs.Reference.Servers
import RegistryLogin.Proofs.Registry.Endpoints
import RegistryLogin.Provider.Production

/-! Hosts that resolve are hosts that can be asked. -/

namespace RegistryLogin

structure Url.IsExchangeOf (endpoint server : Url) : Prop where
  origin : endpoint.origin = server.origin
  path : endpoint.path.toText = "/oauth2/exchange".toList
  query : endpoint.query = none
  fragment : endpoint.fragment = none

def ExchangeError.isOfAnswer : ExchangeError → Bool
  | .transport | .status _ _ _ | .parse _ _ => true
  | .unsupportedServerUrl _ | .invalidEndpoint _ | .clientBuild => false

namespace ClientFactory

/-- The server is on the web, each client for it has an endpoint below it, and only a name that cannot
be sent keeps a client from being built. -/
structure Serves (factory : ClientFactory) (server : Url) : Prop where
  web : Url.isWeb server.scheme = true
  endpoint {options : ClientOptions} {client : RegistryClient}
    (built : factory.build server options = .ok client) :
    ∃ endpoint, client.endpoint = .ok endpoint ∧ endpoint.IsExchangeOf server
  refusal {options : ClientOptions} {error : ExchangeError}
    (refused : factory.build server options = .error error) :
    error = .clientBuild ∧ ¬ options.userAgent.all ClientOptions.isUsableName

theorem serves_of_resolveHost (factory : ClientFactory) {reference host : String}
    (h : Reference.resolveHost reference = .ok host) :
    ∃ server, serverUrl host = .ok server ∧ factory.Serves server := by
  obtain ⟨name, port, address, server, -, -, parsed, -, -, shape⟩ := Reference.server_of_resolveHost h
  have web : Url.isWeb server.scheme = true := by
    rw [shape]
    rfl
  refine ⟨server, parsed, web, fun {_ client} built => ?_, build_error web⟩
  obtain ⟨same, -⟩ := build_ok built
  have root : client.server.path = .segments [[]] := by rw [same, shape]
  obtain ⟨front, directory, found⟩ :=
    client.endpoint_of_web (same ▸ web) (by rw [root]; rfl)
  -- the server has no path of its own, so nothing comes before that of the endpoint
  obtain rfl : front = [] := by simpa [root, UrlPath.asDirectory, eq_comm] using directory
  exact ⟨_, found, by rw [← same]; rfl, rfl, rfl, rfl⟩

end ClientFactory

section

variable {ε ε' α : Type} {f : ε → ε'} {x : Except ε α}

lemma mapError_eq_ok_iff {a : α} : x.mapError f = .ok a ↔ x = .ok a := by
  cases x <;> simp [Except.mapError]

lemma mapError_eq_error_iff {error : ε'} :
    x.mapError f = .error error ↔ ∃ e, x = .error e ∧ error = f e := by
  cases x <;> simp [Except.mapError, eq_comm]

end

namespace ExchangeResponse

lemma isOfAnswer_conclude {present : Instant} {response : Option Response} {error : ExchangeError}
    (h : conclude present response = .error error) : error.isOfAnswer = true := by
  unfold conclude at h
  split at h
  · unfold judge at h
    split at h
    · split at h
      · cases h
      · obtain rfl := Except.error.inj h
        rfl
    · obtain rfl := Except.error.inj h
      rfl
  · obtain rfl := Except.error.inj h
    rfl

end ExchangeResponse

namespace RegistryClient

lemma isOfAnswer_exchange {client : RegistryClient} {endpoint : Url}
    (found : client.endpoint = .ok endpoint) {request : ExchangeRequest} {present : Instant}
    {network : Network} {error : ExchangeError}
    (h : (client.exchange request present network).1 = .error error) : error.isOfAnswer = true := by
  simp only [exchange, found] at h
  exact ExchangeResponse.isOfAnswer_conclude h

end RegistryClient

namespace Provider

variable {World : Type}

lemma clientError?_eq_some_iff {p : Provider World RegistryClient} {host : String} {server : Url}
    (parsed : serverUrl host = .ok server) {world : World} {cause : Cause} :
    p.clientError? host world = some cause ↔
      (p.collaborators.openClient server p.options world).1 = .error cause := by
  simp only [clientError?, parsed]
  rcases p.collaborators.openClient server p.options world with ⟨_ | _, _⟩ <;> simp

/-- The provider resolves references and turns to registries as in production. Where its tokens come
from, how long an answer takes, and what else its collaborators do to their world is left open. -/
structure Contacts (p : Provider World RegistryClient) (factory : ClientFactory)
    (around : World → Surroundings) : Prop where
  resolves : p.collaborators.resolveHost = Reference.resolveHost
  opens (server : Url) (options : ClientOptions) (world : World) :
    (p.collaborators.openClient server options world).1 = factory.openClient server options
  exchanges (client : RegistryClient) (request : ExchangeRequest) (world : World) :
    (p.collaborators.exchange client request world).1.outcome =
      (client.answer request (around world)).1.outcome

namespace Contacts

variable {p : Provider World RegistryClient} {factory : ClientFactory} {around : World → Surroundings}
variable {reference host : String}

lemma served (contacts : p.Contacts factory around)
    (h : p.collaborators.resolveHost reference = .ok host) :
    ∃ server, serverUrl host = .ok server ∧ factory.Serves server :=
  factory.serves_of_resolveHost (contacts.resolves ▸ h)

lemma clientError (contacts : p.Contacts factory around)
    (h : p.collaborators.resolveHost reference = .ok host) {world : World} {cause : Cause}
    (failed : p.clientError? host world = some cause) :
    cause = .exchange .clientBuild ∧ ¬ p.options.userAgent.all ClientOptions.isUsableName := by
  obtain ⟨server, parsed, serves⟩ := contacts.served h
  rw [clientError?_eq_some_iff parsed, contacts.opens, ClientFactory.openClient,
    mapError_eq_error_iff] at failed
  obtain ⟨error, refused, rfl⟩ := failed
  obtain ⟨rfl, unusable⟩ := serves.refusal refused
  exact ⟨rfl, unusable⟩

lemma exchangeError (contacts : p.Contacts factory around)
    (h : p.collaborators.resolveHost reference = .ok host) {s : Session World} {moves : List Move}
    {c : Nat} {inquiry : Option (Delayed (Except Cause Issued))} {token : IdentityToken} {server : Url}
    {answer : Delayed (Except Cause (Option Secret))} {cause : Cause}
    (sent : s.Sent p moves c host inquiry token server answer)
    (failed : answer.outcome = .error cause) :
    ∃ error, cause = .exchange error ∧ error.isOfAnswer = true := by
  obtain ⟨server', parsed, serves⟩ := contacts.served h
  cases sent with
  | @intro world world' _ client _ hs ho hx =>
    obtain rfl := Except.ok.inj (parsed.symm.trans hs)
    have built : factory.build server' p.options = .ok client := by
      have opened := contacts.opens server' p.options world
      rw [ho] at opened
      exact mapError_eq_ok_iff.mp opened.symm
    obtain ⟨endpoint, found, -⟩ := serves.endpoint built
    have answered := contacts.exchanges client (p.exchangeRequest host token) world'
    rw [hx, failed] at answered
    obtain ⟨error, told, rfl⟩ := mapError_eq_error_iff.mp answered.symm
    exact ⟨error, rfl, RegistryClient.isOfAnswer_exchange found told⟩

end Contacts

end Provider

namespace Call

def failsWith (reference : String) (error : LoginError) : Call → Bool
  | ⟨.provide r, .done (.returned (.error e))⟩ => r == reference && e == error
  | _ => false

lemma eq_of_failsWith {reference : String} {error : LoginError} {call : Call}
    (h : call.failsWith reference error = true) :
    call = ⟨.provide reference, .done (.returned (.error error))⟩ := by
  unfold failsWith at h
  split at h
  · simp only [Bool.and_eq_true, beq_iff_eq] at h
    obtain ⟨rfl, rfl⟩ := h
    rfl
  · cases h

end Call

namespace Session

variable {World : Type} {p : Provider World RegistryClient} {factory : ClientFactory}
variable {around : World → Surroundings}

lemma unresolved_iff {s : Session World} {moves : List Move} {c : Nat} {reference : String}
    {halt : Halt} (h : s.HaltsAt p moves c reference halt) {error : HostError} :
    halt = .unresolved error ↔ p.collaborators.resolveHost reference = .error error := by
  cases h with
  | unresolved h => simp [h]
  | refused h => simp [h]
  | unserved h => simp [h]
  | settled h => simp [h]

/-- A reference without a usable host ends its login in the first move, which touches neither the cache
nor the source. A host that resolves has a server with an endpoint, so what fails once there is a token
are the client options or the answer of the registry. -/
theorem host_fails_first (contacts : p.Contacts factory around) :
    (∀ reference host, Reference.resolveHost reference = .ok host →
      ∃ server, serverUrl host = .ok server ∧ factory.Serves server) ∧
    (∀ (s : Session World) reference favoured error, Reference.resolveHost reference = .error error →
      let next := s.move p (.start (.provide reference) favoured)
      next.shared.side = s.shared.side ∧
        next.calls =
          s.calls ++ [⟨.provide reference, .done (.returned (.error (.hostResolution error)))⟩]) ∧
    ∀ (seed : TokenCache) (clock : Instant) (world : World) (moves : List Move) (c : Nat)
        (reference : String) (result : Except LoginError Verdict),
      ((ofSeed seed clock world).run p moves).calls[c]? =
          some ⟨.provide reference, .done (.returned result)⟩ →
        (∀ error, result = .error (.hostResolution error) ↔
          Reference.resolveHost reference = .error error) ∧
        (∀ cause, result = .error (.clientConstruction cause) → cause = .exchange .clientBuild ∧
          ¬ p.options.userAgent.all ClientOptions.isUsableName) ∧
        ∀ cause, result = .error (.registryExchange cause) →
          ∃ error, cause = .exchange error ∧ error.isOfAnswer = true := by
  refine ⟨fun _ _ => factory.serves_of_resolveHost, ?_, ?_⟩
  · intro s reference favoured error h next
    have unresolved : p.jobOf (.provide reference) = .error error := by
      rw [Provider.jobOf, contacts.resolves, h]
      rfl
    obtain ⟨side, -, ends⟩ := p.start_unresolved s.calls.length favoured unresolved s.shared
    refine ⟨side, ?_⟩
    rw [← ends]
    rfl
  · intro seed clock world moves c reference result h
    have told := (run_chronicle p seed clock world moves c).told h
    have returns := told.outcome (ofSeed_onErrand seed clock world)
    refine ⟨fun error => ?_, fun cause failed => ?_, fun cause failed => ?_⟩
    · obtain ⟨halt, halts⟩ := returns.halts
      rw [returns.hostResolution, ← contacts.resolves, ← unresolved_iff halts]
      exact ⟨fun h => halts.unique (ofSeed_onErrand seed clock world) h, fun same => same ▸ halts⟩
    · cases (returns.clientConstruction cause).mp failed with
      | unserved h _ _ failed => exact contacts.clientError h failed
    · obtain ⟨host, settled⟩ := (returns.registryExchange cause).mp failed
      generalize hh : Halt.settled host (.error cause) = halt at settled
      cases settled with
      | settled h _ sent =>
        obtain ⟨rfl, same⟩ := Halt.settled.inj hh
        exact contacts.exchangeError h sent same.symm
      | _ => cases hh

def secluded (userAgent : Option String) : Provider Surroundings RegistryClient :=
  { Provider.ofSettings ⟨"tenant-1", "client", "token",
      ⟨"https".toList, some ⟨[], [], .ipv4 0x7F000001, none⟩, .segments [[]], none, none⟩⟩ with
    options := ⟨none, userAgent⟩ }

def seclusion : Session Surroundings :=
  let clock : Instant := ⟨1735689600000000000, .utc, by decide, by decide⟩
  ofSeed ⟨some ⟨⟨"t"⟩, ⟨1735693200000000000, .utc, by decide, by decide⟩⟩⟩ clock
    ⟨.ofWorking [], .unreachable, clock, []⟩

theorem host_fails_first_secluded :
    let moves : List Move := [.start (.provide "127.0.0.1:0443/app") false]
    (secluded none).Contacts .plain id ∧ (secluded (some "\n")).Contacts .plain id ∧
      Reference.resolveHost "127.0.0.1:0443/app" = .ok "127.0.0.1:0443" ∧
      (∃ server, serverUrl "127.0.0.1:0443" = .ok server ∧ ClientFactory.plain.Serves server) ∧
      Reference.resolveHost "" = .error .empty ∧
      (seclusion.move (secluded none) (.start (.provide "") false)).shared.side =
        seclusion.shared.side ∧
      (∃ error, (seclusion.run (secluded none) moves).calls[0]? = some ⟨.provide "127.0.0.1:0443/app",
        .done (.returned (.error (.registryExchange (.exchange error))))⟩ ∧ error.isOfAnswer = true) ∧
      ∃ cause, (seclusion.run (secluded (some "\n")) moves).calls[0]? =
        some ⟨.provide "127.0.0.1:0443/app", .done (.returned (.error (.clientConstruction cause)))⟩ ∧
          cause = .exchange .clientBuild := by
  intro moves
  have contacts (userAgent : Option String) : (secluded userAgent).Contacts .plain id :=
    ⟨rfl, fun _ _ _ => rfl, fun _ _ _ => rfl⟩
  have runs : ((seclusion.run (secluded none) moves).calls[0]?.any (Call.failsWith
        "127.0.0.1:0443/app" (.registryExchange (.exchange .transport)))) = true ∧
      ((seclusion.run (secluded (some "\n")) moves).calls[0]?.any (Call.failsWith
        "127.0.0.1:0443/app" (.clientConstruction (.exchange .clientBuild)))) = true := by
    decide +kernel
  have ends {p : Provider Surroundings RegistryClient} {error : LoginError}
      (h : ((seclusion.run p moves).calls[0]?.any (Call.failsWith "127.0.0.1:0443/app" error)) = true) :
      (seclusion.run p moves).calls[0]? =
        some ⟨.provide "127.0.0.1:0443/app", .done (.returned (.error error))⟩ := by
    obtain ⟨call, found, fails⟩ := (Option.any_eq_true _ _).mp h
    rw [found, Call.eq_of_failsWith fails]
  obtain ⟨served, untouched, failures⟩ := host_fails_first (contacts none)
  obtain ⟨-, -, refusals⟩ := host_fails_first (contacts (some "\n"))
  obtain ⟨error, same, ofAnswer⟩ := (failures _ _ _ moves 0 _ _ (ends runs.1)).2.2 _ rfl
  obtain ⟨built, -⟩ := (refusals _ _ _ moves 0 _ _ (ends runs.2)).2.1 _ rfl
  exact ⟨contacts none, contacts (some "\n"), Reference.resolveHost_loopback,
    served _ _ Reference.resolveHost_loopback, rfl, (untouched seclusion "" false .empty rfl).1,
    ⟨error, same ▸ ends runs.1, ofAnswer⟩, _, ends runs.2, built⟩

end Session

end RegistryLogin
