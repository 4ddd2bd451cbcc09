import RegistryLogin.Proofs.Identity.TokenAnswers

namespace RegistryLogin

namespace Provider

variable {World Client : Type} {p : Provider World Client}

lemma isEnabled_iff (tenant : p.tenantId ≠ "") (client : p.clientId ≠ "") {cache : TokenCache}
    {token : IdentityToken} (kept : cache.current = some token) :
    p.isEnabled cache = true ↔ token.accessToken.text ≠ "" := by
  simp [isEnabled, TokenCache.hasAccessToken, kept, tenant, client, Secret.isEmpty]

end Provider

namespace Session

variable {World Client : Type} {p : Provider World Client} {source : FederatedSource}
variable {view : World → Surroundings}

/-- In one of these moves a call has the answer to a question of its own, and that yields this token. -/
inductive Brings (start : Session World) (p : Provider World Client) (source : FederatedSource)
    (view : World → Surroundings) (moves : List Move) (token : IdentityToken) : Prop
  | intro {first : List Move} {m : Move} {asked : World} {status : Nat} {headers : List Header}
      {body : Text.Bytes} (within : first ++ [m] <+: moves)
      (question : start.AskedIn p (first ++ [m]) ((start.run p first).callOf m) asked)
      (learns : (start.run p first).Learns p m (p.answerIn asked).outcome)
      (answered : source.Answered p.identityRequest (view asked) ⟨status, headers, some body⟩)
      (yields : TokenResponse.Yields TokenResponse.IsTyped (Json.Node.Readable 126)
        (start.run p first).shared.clock status headers body token)

lemma brings_of_returned (consults : p.Consults source view) {seed : TokenCache} {clock : Instant}
    {world : World} {moves : List Move} {a : SourceCall} {token : IdentityToken}
    (ha : a ∈ (ofSeed seed clock world).sourceCalls p moves) (returned : a.fate = .returned token) :
    (ofSeed seed clock world).Brings p source view moves token := by
  obtain ⟨first, m, outcome, within, learns, told⟩ := sourceCalls_returned ha returned
  obtain ⟨asked, question, rfl⟩ := learns_askedIn learns
  have same : (p.answerIn asked).outcome = (source.answer p.identityRequest (view asked)).1.outcome :=
    consults _ _
  rw [same, FederatedSource.fate_answer] at told
  split at told
  · cases told
  · cases told
  · rename_i given found
    obtain rfl := Fate.returned.inj told
    obtain ⟨status, headers, body, answered, yields⟩ := FederatedSource.token?_eq_ok_iff.mp found
    exact ⟨within, question, learns, answered, yields⟩

/-- After a refresh, a provider is enabled just when the last token that was granted is not empty. Each
token is one that an answer yields, so a provider that was refreshed is enabled from then on as long as
no answer yields an empty one. -/
theorem refreshed_enabled_iff (consults : p.Consults source view) (tenant : p.tenantId ≠ "")
    (client : p.clientId ≠ "") (seed : TokenCache) (clock : Instant) (world : World)
    (moves : List Move) :
    let start := ofSeed seed clock world
    (∀ token, SourceCall.latest? (start.sourceCalls p moves) = some token →
      (p.isEnabled (start.run p moves).shared.cache = true ↔ token.accessToken.text ≠ "") ∧
        start.Brings p source view moves token) ∧
      ((SourceCall.latest? (start.sourceCalls p moves)).isSome → ∀ later,
        (∀ token, start.Brings p source view (moves ++ later) token → token.accessToken.text ≠ "") →
        p.isEnabled (start.run p (moves ++ later)).shared.cache = true) := by
  intro start
  have latest (moves : List Move) (token : IdentityToken)
      (h : SourceCall.latest? (start.sourceCalls p moves) = some token) :
      (p.isEnabled (start.run p moves).shared.cache = true ↔ token.accessToken.text ≠ "") ∧
        start.Brings p source view moves token := by
    have kept := (run_recorded p seed clock world moves).kept
    have found : SourceCall.latest? ((ofSeed seed clock world).sourceCalls p moves) = some token := h
    rw [found] at kept
    obtain ⟨a, ha, returned⟩ := SourceCall.returned_of_latest? h
    exact ⟨Provider.isEnabled_iff tenant client kept, brings_of_returned consults ha returned⟩
  refine ⟨latest moves, fun refreshed later filled => ?_⟩
  have further : (SourceCall.latest? (start.sourceCalls p (moves ++ later))).isSome := by
    rw [sourceCalls, sourceCallsOn_append]
    exact latest?_later later refreshed
  obtain ⟨token, found⟩ := Option.isSome_iff_exists.mp further
  obtain ⟨enabled, brings⟩ := latest (moves ++ later) token found
  exact enabled.mpr (filled token brings)

open FederatedSource

theorem refreshed_enabled_iff_hour :
    let start := ofSeed .empty epoch (answering [granting [] (grantText "3600")] [1])
    let moves : List Move := [.start .prime false, .poll 0 false]
    neighbour.Consults nearby id ∧ neighbour.tenantId ≠ "" ∧ neighbour.clientId ≠ "" ∧
      SourceCall.latest? (start.sourceCalls neighbour moves) = some hourLater ∧
      neighbour.isEnabled (start.run neighbour moves).shared.cache = true := by
  intro start moves
  have consults : neighbour.Consults nearby id := fun _ _ => rfl
  have tenant : neighbour.tenantId ≠ "" := by decide
  have client : neighbour.clientId ≠ "" := by decide
  have refreshed : SourceCall.latest? (start.sourceCalls neighbour moves) = some hourLater := by
    decide +kernel
  have enabled := ((refreshed_enabled_iff consults tenant client .empty epoch
    (answering [granting [] (grantText "3600")] [1]) moves).1 hourLater refreshed).1
  exact ⟨consults, tenant, client, refreshed, enabled.mpr (by decide)⟩

def blank : String :=
  "\x7b\"access_token\":\"\",\"token_type\":\"bearer\",\"expires_in\":3600\x7d"

theorem refreshed_enabled_blank :
    ¬ ∀ (source : FederatedSource) (p : Provider Surroundings RegistryClient) (seed : TokenCache)
        (clock : Instant) (world : Surroundings) (moves : List Move),
      p.collaborators.requestIdentity = source.answer → p.tenantId ≠ "" → p.clientId ≠ "" →
      (SourceCall.latest? ((ofSeed seed clock world).sourceCalls p moves)).isSome →
      p.isEnabled ((ofSeed seed clock world).run p moves).shared.cache = true := by
  intro h
  let world := answering [granting [] blank] []
  have refreshed : (SourceCall.latest? ((ofSeed .empty epoch world).sourceCalls neighbour
      [.start .prime false])).isSome = true := by decide +kernel
  have enabled := h nearby neighbour .empty epoch world [.start .prime false] rfl (by decide)
    (by decide) refreshed
  have disabled : neighbour.isEnabled ((ofSeed .empty epoch world).run neighbour
      [.start .prime false]).shared.cache = false := by decide +kernel
  cases enabled.symm.trans disabled

end Session

end RegistryLogin
