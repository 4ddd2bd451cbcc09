import RegistryLogin.Proofs.Identity.Requests
import RegistryLogin.Proofs.Url.References
import Mathlib.Tactic.SplitIfs

namespace RegistryLogin

lemma Settings.ofConfig_authority {value : Json.Value} {env : Environment} {settings : Settings}
    (h : ofConfig value env = .ok settings) :
    Url.parse (env.valueOrEmpty authorityVariable) = .ok settings.authority := by
  unfold ofConfig at h
  split at h
  · cases h
  · obtain ⟨-, -, h⟩ := bind_ok h
    dsimp only at h
    split_ifs at h
    split at h
    · cases h
    · rename_i hu
      obtain rfl := Except.ok.inj h
      exact hu

lemma Request.target_origin (url : Url) : (target url).origin = url.origin := by
  unfold target Url.origin
  cases url.authority <;> rfl

namespace FederatedSource

variable (source : FederatedSource)

/-- The URL that a tenant stands for by itself, if it does. -/
def named? (tenantId : String) : Option (Except Url.Error Url) :=
  Url.named? source.authority.scheme (Url.tidy (tenantId ++ "/oauth2/v2.0/token").toList)

lemma endpoint_web (web : Url.isWeb source.authority.scheme = true)
    (segmented : source.authority.path.isOpaque = false) (tenantId : String) :
    match source.named? tenantId with
    | some result => source.endpoint tenantId = result
    | none => ∃ url, source.endpoint tenantId = .ok url ∧ url.origin = source.authority.origin :=
  source.authority.asDirectory.read_web web ((Url.asDirectory_isOpaque _).trans segmented)
    (tenantId ++ "/oauth2/v2.0/token").toList

lemma named?_of_plain {tenantId : String} (nonempty : tenantId.toList ≠ [])
    (plain : tenantId.toList.all Url.isPlain = true) : source.named? tenantId = none := by
  rw [List.all_eq_true] at plain
  have tidied : Url.tidy (tenantId ++ "/oauth2/v2.0/token").toList =
      tenantId.toList ++ '/' :: "oauth2/v2.0/token".toList := by
    have path : "/oauth2/v2.0/token".toList.all (0x20 < ·.toNat) = true := by decide
    rw [String.toList_append]
    apply Url.tidy_eq
    intro c hc
    rcases List.mem_append.mp hc with hc | hc
    · exact Url.visible_of_plain (plain c hc)
    · exact of_decide_eq_true (List.all_eq_true.mp path c hc)
  rw [named?, tidied]
  exact Url.named?_plain nonempty plain _ _

lemma puts_origin {request : IdentityRequest} {around : Surroundings} {put : Request}
    (h : source.Puts request around put) :
    ∃ url, source.endpoint request.tenantId = .ok url ∧ put.url.origin = url.origin := by
  obtain ⟨_, endpoint, -, found, -, rfl⟩ := h
  exact ⟨endpoint, found, Request.target_origin endpoint⟩

/-- An endpoint is at the origin of the authority unless the tenant stands for a URL of another origin. If
it does not, nothing is sent anywhere else but by a client that follows an answer there. -/
theorem endpoint_origin_iff {value : Json.Value} {env : Environment} {settings : Settings}
    (hs : Settings.ofConfig value env = .ok settings)
    (web : Url.isWeb settings.authority.scheme = true) (http : HttpClient) (request : IdentityRequest)
    (around : Surroundings) :
    let source : FederatedSource := ⟨settings.tokenFile, settings.authority, http⟩
    let origin := settings.authority.origin
    let seen := (source.request request around).2.seen
    ((∀ url, source.endpoint request.tenantId = .ok url → url.origin = origin) ↔
        ∀ url, source.named? request.tenantId = some (.ok url) → url.origin = origin) ∧
      ((∀ url, source.named? request.tenantId = some (.ok url) → url.origin = origin) →
        ∀ sent ∈ seen, sent ∈ around.network.seen ∨ sent.url.origin = origin ∨
          http.redirects ≠ .refused ∧ ∃ earlier ∈ seen, around.network.Leads earlier sent) := by
  intro source origin seen
  have segmented : settings.authority.path.isOpaque = false :=
    Url.parse_isOpaque (Settings.ofConfig_authority hs) web
  have he := source.endpoint_web web segmented request.tenantId
  have iff : (∀ url, source.endpoint request.tenantId = .ok url → url.origin = origin) ↔
      ∀ url, source.named? request.tenantId = some (.ok url) → url.origin = origin := by
    cases hn : source.named? request.tenantId with
    | some result =>
      rw [hn] at he
      simp [show source.endpoint request.tenantId = result from he]
    | none =>
      rw [hn] at he
      obtain ⟨url, hu, same⟩ := he
      simpa [hu] using same
  refine ⟨iff, fun own r hr => ?_⟩
  obtain ⟨sent, grown, rfl | ⟨put, puts, trail⟩⟩ := source.request_trail request around
  · rw [List.append_nil] at grown
    exact .inl (grown ▸ hr)
  · rcases List.mem_append.mp (grown ▸ hr : r ∈ around.network.seen ++ sent) with old | fresh
    · exact .inl old
    · rcases trail.mem fresh with rfl | ⟨more, earlier, he, leads⟩
      · obtain ⟨url, hu, same⟩ := source.puts_origin puts
        exact .inr (.inl (same.trans (iff.mpr own url hu)))
      · refine .inr (.inr ⟨fun refused => ?_, earlier, ?_, leads⟩)
        · exact absurd more (by rw [show source.http.redirects = .refused from refused]; exact Nat.lt_irrefl 0)
        · exact (show seen = _ from grown) ▸ List.mem_append_right _ he

end FederatedSource

def workload : Json.Value := .object [(Config.nameField, .string Config.providerName)]

def declared (tenant authority : String) : Environment :=
  .ofFirst [(tenantVariable, tenant), (clientVariable, "client"), (tokenFileVariable, "token"),
    (authorityVariable, authority)]

theorem endpoint_origin_iff_local :
    let authority : Url := ⟨"http".toList, some ⟨[], [], .ipv6 [0, 0, 0, 0, 0, 0, 0, 1], some 8080⟩,
      .segments [[]], none, none⟩
    let settings : Settings := ⟨"tenant-1", "client", "token", authority⟩
    let source : FederatedSource := ⟨settings.tokenFile, settings.authority, .configured none⟩
    let request : IdentityRequest := ⟨"tenant-1", "client", IdentityRequest.registryResource⟩
    let around : Surroundings := ⟨.ofWorking [("token", .content [0x61])], ⟨true, [], []⟩,
      ⟨0, .utc, by decide, by decide⟩, []⟩
    Settings.ofConfig workload (declared "tenant-1" "http://[::1]:8080") = .ok settings ∧
      Url.isWeb authority.scheme = true ∧ (source.request request around).2.seen ≠ [] ∧
      ∀ sent ∈ (source.request request around).2.seen, sent.url.origin = authority.origin := by
  intro authority settings source request around
  have hs : Settings.ofConfig workload (declared "tenant-1" "http://[::1]:8080") = .ok settings :=
    ok_of_toOption (by decide +kernel)
  have posted : (source.request request around).2.seen.isEmpty = false := by decide +kernel
  have unnamed : source.named? "tenant-1" = none := source.named?_of_plain (by decide) (by decide)
  have own : ∀ url, source.named? "tenant-1" = some (.ok url) → url.origin = authority.origin := by
    simp [unnamed]
  refine ⟨hs, rfl, List.isEmpty_eq_false_iff.mp posted, fun sent seen => ?_⟩
  rcases (FederatedSource.endpoint_origin_iff hs rfl (.configured none) request around).2 own sent seen with
    old | same | ⟨follows, -⟩
  · cases old
  · exact same
  · exact absurd rfl follows

theorem endpoint_origin_slashes : ¬ ∀ (value : Json.Value) (env : Environment) (settings : Settings),
    Settings.ofConfig value env = .ok settings → Url.isWeb settings.authority.scheme = true →
    ∀ url, (FederatedSource.new settings.tokenFile settings.authority).endpoint settings.tenantId =
      .ok url → url.origin = settings.authority.origin := by
  intro h
  let env := declared "//evil.com" "https://login.microsoftonline.com/"
  let host (name : String) : Option Authority := some ⟨[], [], .name name.toList, none⟩
  let authority : Url :=
    ⟨"https".toList, host "login.microsoftonline.com", .segments [[]], none, none⟩
  let settings : Settings := ⟨"//evil.com", "client", "token", authority⟩
  let endpoint : Url := ⟨"https".toList, host "evil.com",
    .segments ["oauth2".toList, "v2.0".toList, "token".toList], none, none⟩
  have both : (Settings.ofConfig workload env).toOption = some settings ∧
      ((FederatedSource.new "token" authority).endpoint "//evil.com").toOption = some endpoint := by
    decide +kernel
  have same : endpoint.origin = authority.origin :=
    h workload env settings (ok_of_toOption both.1) rfl endpoint (ok_of_toOption both.2)
  exact absurd same (by decide)

end RegistryLogin
