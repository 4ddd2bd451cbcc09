import RegistryLogin.Provider.Session

/-! What diagnostics show of a provider and of its calls. -/

namespace RegistryLogin

open Text

structure Printed where
  line : String
  spread : String
deriving DecidableEq

def Text.Outline.printed (o : Outline) : Printed := ⟨o.line, o.spread⟩

structure SecretTexts where
  printed : Printed
  display : String
deriving DecidableEq

def Secret.texts (s : Secret) : SecretTexts := ⟨s.outline.printed, s.display⟩

structure TokenTexts where
  printed : Printed
  accessToken : SecretTexts
deriving DecidableEq

def IdentityToken.texts (token : IdentityToken) : TokenTexts :=
  ⟨token.outline.printed, token.accessToken.texts⟩

structure CredentialTexts where
  printed : Printed
  password : SecretTexts
deriving DecidableEq

def Credential.texts (c : Credential) : CredentialTexts := ⟨c.outline.printed, c.password.texts⟩

namespace ExchangeRequest

def outline (request : ExchangeRequest) : Outline :=
  .record "ExchangeRequest"
    [("grant_type", .text request.grantType), ("service", .text request.service),
      ("tenant", .ofOption .text request.tenant), ("access_token", request.accessToken.outline)]

end ExchangeRequest

namespace ExchangeResponse

def outline (refreshToken : Option Secret) : Outline :=
  .record "ExchangeResponse" [("refresh_token", .ofOption Secret.outline refreshToken)]

end ExchangeResponse

structure ErrorText where
  kind : String
  message : String
deriving DecidableEq

def HostError.kind : HostError → String
  | .empty => "Empty"
  | .implicitRegistry _ => "ImplicitRegistry"
  | .malformed _ _ => "Malformed"
  | .invalidRegistry _ => "InvalidRegistry"

def IdentityError.kind : IdentityError → String
  | .tokenFile _ _ => "TokenFile"
  | .emptyTokenFile _ => "EmptyTokenFile"
  | .invalidEndpoint _ => "InvalidEndpoint"
  | .rejected _ _ _ => "Rejected"
  | .transport => "Transport"
  | .parse _ _ => "Parse"
  | .unexpected _ _ _ => "Unexpected"
  | .missingExpiresIn => "MissingExpiresIn"
  | .expiresInOutOfRange => "ExpiresInOutOfRange"
  | .expiresInNotPositive => "NonPositiveExpiresIn"

def ExchangeError.kind : ExchangeError → String
  | .unsupportedServerUrl _ => "UnsupportedServerUrl"
  | .invalidEndpoint _ => "InvalidEndpoint"
  | .clientBuild => "HttpClientBuild"
  | .transport => "Transport"
  | .status _ _ _ => "Status"
  | .parse _ _ => "Parse"

def Cause.kind : Cause → String
  | .identity error => error.kind
  | .exchange error => error.kind
  | .url _ => "ParseError"
  | .other _ => "Other"

def SettingsError.kind : SettingsError → String
  | .denied _ => "ConfigDenied"
  | .malformed _ => "InvalidConfig"
  | .unsupported _ => "UnsupportedProvider"
  | .invalidAuthority _ _ => "InvalidAuthorityHost"

def LoginError.kind : LoginError → String
  | .settings error => error.kind
  | .hostResolution _ => "HostResolution"
  | .identityRefresh _ => "IdentityTokenRefresh"
  | .clientConstruction _ => "ClientConstruction"
  | .registryExchange _ => "RegistryExchange"
  | .missingRefreshToken _ => "MissingRefreshToken"

def Cause.text (cause : Cause) : ErrorText := ⟨cause.kind, cause.message⟩

def LoginError.source? : LoginError → Option ErrorText
  | .settings _ => none
  | .hostResolution error => some ⟨error.kind, error.message⟩
  | .identityRefresh cause => some cause.text
  | .clientConstruction cause => some cause.text
  | .registryExchange cause => some cause.text
  | .missingRefreshToken _ => none

structure FailureTexts where
  error : ErrorText
  source : Option ErrorText
deriving DecidableEq

def LoginError.texts (error : LoginError) : FailureTexts :=
  ⟨⟨error.kind, error.message⟩, error.source?⟩

structure Series where
  name : String
  labels : List (String × String)
deriving DecidableEq

namespace Series

def flowTotal (flow outcome : String) : Series :=
  ⟨Flow.counterName, [("flow", flow), ("outcome", outcome)]⟩

def exchangeDuration (host : String) : Series := ⟨Sink.histogramName, [("registry", host)]⟩

end Series

inductive Diagnostic
  | span (name flow stage : String)
  | increment (series : Series)
  | sample (series : Series)
  | message (text : String) (fields : List (String × String))
  | resolving (reference : String)
  | asked (request : IdentityRequest)
  | building (server : Url) (options : Printed)
  | exchanging (request : Printed) (accessToken : SecretTexts)
  | reported (host : String)
  | polled
deriving DecidableEq

def Diagnostic.series? : Diagnostic → Option Series
  | .increment series => some series
  | .sample series => some series
  | _ => none

def Event.diagnostic : Event → Diagnostic
  | .opened flow => .span Flow.spanName flow.label flow.stage
  | .counted flow outcome => .increment (.flowTotal flow.label outcome.label)
  | .resolving reference => .resolving reference
  | .asked request => .asked request
  | .sourcePolled => .polled
  | .building server options => .building server options.outline.printed
  | .exchanging request => .exchanging request.outline.printed request.accessToken.texts
  | .exchangePolled => .polled
  | .reported .histogram host => .sample (.exchangeDuration host)
  | .reported .custom host => .reported host
  | .refreshed expiresOn => .message Event.refreshedMessage [("expires_on", expiresOn.toText)]
  | .exchanged host => .message Event.exchangedMessage [("registry", host)]

structure EntryDiagnostics where
  call : Nat
  within : List Span
  diagnostic : Diagnostic
deriving DecidableEq

def Entry.diagnostics (entry : Entry) : EntryDiagnostics :=
  ⟨entry.call, entry.within, entry.event.diagnostic⟩

inductive PhaseDiagnostics
  | waiting
  | refreshing
  | exchanging (host : String) (token : TokenTexts) (response : Except ErrorText Printed)
  | primed
  | issued (credential : CredentialTexts) (response : Printed)
  | failed (texts : FailureTexts)
  | overflowed (stage : Stage)
  | cancelled (stage : Stage)

def Phase.diagnostics : Phase → PhaseDiagnostics
  | .waiting _ => .waiting
  | .refreshing _ _ => .refreshing
  | .exchanging host token answer => .exchanging host token.texts
    (match answer.outcome with
      | .error cause => .error cause.text
      | .ok refreshToken => .ok (ExchangeResponse.outline refreshToken).printed)
  | .done (.returned (.ok .primed)) => .primed
  | .done (.returned (.ok (.issued credential))) =>
    .issued credential.texts (ExchangeResponse.outline (some credential.password)).printed
  | .done (.returned (.error error)) => .failed error.texts
  | .done (.overflowed stage) => .overflowed stage
  | .done (.cancelled stage) => .cancelled stage

structure CallDiagnostics where
  errand : Errand
  phase : PhaseDiagnostics

def Call.diagnostics (call : Call) : CallDiagnostics := ⟨call.errand, call.phase.diagnostics⟩

structure Diagnostics where
  provider : Printed
  cache : Printed
  token : Option TokenTexts
  tally : Tally
  trace : List EntryDiagnostics
  calls : List CallDiagnostics

def Session.diagnostics {World Client : Type} (p : Provider World Client) (s : Session World) :
    Diagnostics where
  provider := (p.outline s.shared.cache).printed
  cache := s.shared.cache.outline.printed
  token := s.shared.cache.current.map IdentityToken.texts
  tally := s.shared.tally
  trace := s.shared.trace.map Entry.diagnostics
  calls := s.calls.map Call.diagnostics

end RegistryLogin
