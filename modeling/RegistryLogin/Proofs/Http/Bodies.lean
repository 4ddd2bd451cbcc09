import RegistryLogin.Proofs.Http.Forms
import RegistryLogin.Proofs.Identity.Requests
import RegistryLogin.Proofs.Url.References
import RegistryLogin.Registry.Exchange

namespace RegistryLogin

open Text

namespace RegistryClient

variable {client : RegistryClient} {request : ExchangeRequest} {present : Instant} {network : Network}

lemma network_of_endpoint {endpoint : Url} (h : client.endpoint = .ok endpoint) :
    (client.exchange request present network).2 =
      (network.send client.http (client.post endpoint request)).2 := by
  simp only [exchange, h]

end RegistryClient

lemma ExchangeRequest.form_injective {request request' : ExchangeRequest}
    (h : request.form = request'.form) : request = request' := by
  obtain ⟨grant, service, tenant, ⟨token⟩⟩ := request
  obtain ⟨grant', service', tenant', ⟨token'⟩⟩ := request'
  -- a tenant makes the form longer by one field
  cases tenant <;> cases tenant' <;> simp_all [form]

namespace FederatedSource

variable {source : FederatedSource}

lemma form_injective {request request' : IdentityRequest} {assertion assertion' : String}
    (h : form request assertion = form request' assertion') :
    request.clientId = request'.clientId ∧ request.resource = request'.resource ∧
      assertion = assertion' := by
  simp_all [form]

lemma readText_content {files : Files} {path content : String}
    (h : files.find path = .ok (.content (Utf8.ofString content))) :
    files.readText path = .ok content.toList := by
  rw [Files.readText, h]
  simp only [Utf8.ofString, Utf8.decode?_eq_some_iff.mpr rfl]

lemma assertion_of_content {files : Files} {content : String}
    (h : files.find source.tokenFile = .ok (.content (Utf8.ofString content)))
    (filled : ∃ c ∈ content.toList, isBlank c = false) :
    source.assertion files = .ok (String.ofList (trim content.toList)) := by
  have some : trim content.toList ≠ [] := by
    intro none
    obtain ⟨c, hc, full⟩ := filled
    rw [trim_eq_nil_iff.mp none c hc] at full
    cases full
  obtain ⟨c, cs, trimmed⟩ := List.exists_cons_of_ne_nil some
  simp only [assertion, readText_content h, trimmed]

end FederatedSource

namespace Request

/-- The body of an exchange holds the fields of the exchange, and the body of a token request those of the
request with the text of the file that is there at the time, less the blanks around it. If a client is
sent elsewhere, it says the same there or nothing. -/
theorem bodies_faithful :
    (∀ (client : RegistryClient) (request : ExchangeRequest) (present : Instant) (network : Network)
        (endpoint : Url), client.endpoint = .ok endpoint →
      (client.exchange request present network).2 =
        (network.send client.http (client.post endpoint request)).2 ∧
      (∀ sent ∈ (client.exchange request present network).2.seen,
        sent ∈ network.seen ∨ (client.post endpoint request).Repeats sent) ∧
      Form.decode (client.post endpoint request).body =
        [("grant_type", request.grantType), ("service", request.service)] ++
          (match request.tenant with
            | some tenant => [("tenant", tenant)]
            | none => []) ++ [("access_token", request.accessToken.text)]) ∧
    (∀ (source : FederatedSource) (request : IdentityRequest) (around : Surroundings)
        (content : String),
      around.files.find source.tokenFile = .ok (.content (Utf8.ofString content)) →
      (∃ c ∈ content.toList, isBlank c = false) →
      ∃ assertion : String, Strips content.toList assertion.toList ∧
        ∀ endpoint, source.endpoint request.tenantId = .ok endpoint →
          Target.check endpoint.chars = .ok () →
          (source.request request around).2 =
            (around.network.send source.http (source.post endpoint request assertion)).2 ∧
          (∀ sent ∈ (source.request request around).2.seen,
            sent ∈ around.network.seen ∨ (source.post endpoint request assertion).Repeats sent) ∧
          Form.decode (source.post endpoint request assertion).body =
            [("grant_type", "client_credentials"), ("scope", request.resource),
              ("client_id", request.clientId),
              ("client_assertion_type", "urn:ietf:params:oauth:client-assertion-type:jwt-bearer"),
              ("client_assertion", assertion)]) ∧
    (∀ (client client' : RegistryClient) (endpoint endpoint' : Url) (request request' : ExchangeRequest),
      (client.post endpoint request).body = (client'.post endpoint' request').body →
        request = request') ∧
    ∀ (source source' : FederatedSource) (endpoint endpoint' : Url) (request request' : IdentityRequest)
        (assertion assertion' : String),
      (source.post endpoint request assertion).body =
          (source'.post endpoint' request' assertion').body →
        request.clientId = request'.clientId ∧ request.resource = request'.resource ∧
          assertion = assertion' := by
  refine ⟨?_, fun source request around content => ?_, ?_, ?_⟩
  · intro client request present network endpoint found
    have sent : (client.exchange request present network).2 =
        (network.send client.http (client.post endpoint request)).2 :=
      RegistryClient.network_of_endpoint found
    refine ⟨sent, sent ▸ network.send_repeats client.http _, ?_⟩
    rw [RegistryClient.post, Form.decode_encode, ExchangeRequest.form]
    cases request.tenant <;> rfl
  · intro read filled
    have ready := FederatedSource.assertion_of_content read filled
    refine ⟨String.ofList (trim content.toList), ?_, fun endpoint found target => ?_⟩
    · rw [String.toList_ofList]
      exact strips_trim content.toList
    · have puts : source.Puts request around
          (source.post endpoint request (String.ofList (trim content.toList))) :=
        ⟨_, endpoint, ready, found, target, rfl⟩
      have sent := congrArg Prod.snd (FederatedSource.request_puts puts)
      exact ⟨sent, sent ▸ around.network.send_repeats source.http _, Form.decode_encode _⟩
  · intro client client' endpoint endpoint' request request' same
    exact ExchangeRequest.form_injective (Form.encode_injective same)
  · intro source source' endpoint endpoint' request request' assertion assertion' same
    exact FederatedSource.form_injective (Form.encode_injective same)

theorem bodies_faithful_separators :
    let server : Url := ⟨"http".toList, some ⟨[], [], .ipv6 [0, 0, 0, 0, 0, 0, 0, 1], some 8080⟩,
      .segments [[]], none, none⟩
    let client : RegistryClient := ⟨server, .configured none⟩
    let request : ExchangeRequest := ⟨"access_token", "a&tenant=b", some "", ⟨"+\u00E9 %26"⟩⟩
    let source : FederatedSource := .new "token" server
    let asked : IdentityRequest := ⟨"tenant-1", "c=d", "https://e/.default"⟩
    let content := "\t\u00E9=&\u2003g \n"
    let around : Surroundings := ⟨.ofWorking [("token", .content (Utf8.ofString content))], ⟨true, [], []⟩,
      ⟨0, .utc, by decide, by decide⟩, []⟩
    (∃ endpoint, client.endpoint = .ok endpoint ∧
      Form.decode (client.post endpoint request).body = [("grant_type", "access_token"),
        ("service", "a&tenant=b"), ("tenant", ""), ("access_token", "+\u00E9 %26")] ∧
      (client.post endpoint request).body ≠
        (client.post endpoint { request with tenant := none }).body) ∧
    ∃ assertion endpoint, Strips content.toList assertion.toList ∧
      source.endpoint asked.tenantId = .ok endpoint ∧
      (source.request asked around).2 =
        (around.network.send source.http (source.post endpoint asked assertion)).2 ∧
      Form.decode (source.post endpoint asked assertion).body =
        [("grant_type", "client_credentials"), ("scope", "https://e/.default"), ("client_id", "c=d"),
          ("client_assertion_type", "urn:ietf:params:oauth:client-assertion-type:jwt-bearer"),
          ("client_assertion", assertion)] ∧
      ∀ other, (source.post endpoint asked other).body = (source.post endpoint asked assertion).body →
        other = assertion := by
  intro server client request source asked content around
  let path (segments : List String) : Url := { server with path := .segments (segments.map String.toList) }
  have exchanged : client.endpoint = .ok (path ["oauth2", "exchange"]) :=
    ok_of_toOption (by decide +kernel)
  have granted : source.endpoint "tenant-1" = .ok (path ["tenant-1", "oauth2", "v2.0", "token"]) :=
    ok_of_toOption (by decide +kernel)
  have target : Target.check (path ["tenant-1", "oauth2", "v2.0", "token"]).chars = .ok () :=
    ok_of_toOption (by decide +kernel)
  have stored (file : File) : (Files.ofWorking [("token", file)]).find "token" = .ok file := by
    simp [Files.find, Files.ofWorking, File.walk, File.entry?, splitOn]
  obtain ⟨exchanges, grants, apart, apart'⟩ := bodies_faithful
  obtain ⟨-, -, body⟩ := exchanges client request around.present around.network _ exchanged
  obtain ⟨assertion, strips, sends⟩ :=
    grants source asked around content (stored _) ⟨'g', by decide, by decide⟩
  obtain ⟨sent, -, body'⟩ := sends _ granted target
  refine ⟨⟨_, exchanged, body, fun same => ?_⟩, assertion, _, strips, granted, sent, body',
    fun other same => (apart' _ _ _ _ _ _ _ _ same).2.2⟩
  have tenant := congrArg ExchangeRequest.tenant (apart _ _ _ _ _ _ same)
  cases tenant

end Request

end RegistryLogin
