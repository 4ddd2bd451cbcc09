import RegistryLogin.Http.Form
import RegistryLogin.Http.Network
import RegistryLogin.Login.Errors
import RegistryLogin.Login.Secret
import RegistryLogin.Registry.Options

/-! The exchange endpoint of a registry takes an identity token and answers with a refresh token. -/

namespace RegistryLogin

open Json Text

structure ExchangeRequest where
  grantType : String
  service : String
  tenant : Option String
  accessToken : Secret
deriving DecidableEq

namespace ExchangeRequest

def grantAccessToken : String := "access_token"

def form (request : ExchangeRequest) : List Form.Field :=
  [("grant_type", request.grantType), ("service", request.service)] ++
    request.tenant.toList.map (("tenant", ·)) ++
    [("access_token", request.accessToken.text)]

end ExchangeRequest

namespace ExchangeResponse

def refreshField : String := "refresh_token"

def visit (found : Option (Option String)) (key : String) (node : Node) :
    Reading (Option (Option String)) :=
  if key = refreshField then fill key (Node.optional Node.text) node found
  else (Reading.ofBreak node.skip).map fun _ => found

/-- The refresh token of an object, or of an array of at most one item. -/
def read : Node → Reading (Option String)
  | .object members tail => (visitObject visit none members tail).map (·.getD none)
  | .array items tail => do
    let token ← optionalItem none (Node.optional Node.text) items tail 0
    endArray 1 items tail
    .ok token
  | node => node.mismatch "struct ExchangePayload"

def previewLimit : Nat := 256

def preview (body : Bytes) : String :=
  let text := Utf8.decodeLossy body
  String.ofList (if text.length ≤ previewLimit then text else text.take previewLimit ++ ['…'])

def judge (present : Instant) (status : Nat) (headers : List Header) (body : Bytes) :
    Except ExchangeError (Option Secret) :=
  if 200 ≤ status ∧ status < 300 then
    match readFirst read body with
    | .ok token => .ok (token.map Secret.mk)
    | .error fault => .error (.parse fault status)
  else .error (.status status (preview body) (Metadata.ofResponse present status headers).retryAfter)

def conclude (present : Instant) (response : Option Response) :
    Except ExchangeError (Option Secret) :=
  match response with
  | some ⟨status, headers, some body⟩ => judge present status headers body
  | _ => .error .transport

end ExchangeResponse

structure RegistryClient where
  server : Url
  http : HttpClient

namespace RegistryClient

def endpoint (client : RegistryClient) : Except Url.Error Url :=
  client.server.asDirectory.join "oauth2/exchange"

def post (client : RegistryClient) (endpoint : Url) (request : ExchangeRequest) : Request where
  method := .post
  url := Request.target endpoint
  accept := "*/*"
  userAgent := client.http.userAgent
  authorization := Request.basicAuthorization? endpoint
  body := Form.encode request.form

def exchange (client : RegistryClient) (request : ExchangeRequest) (present : Instant)
    (network : Network) : Except ExchangeError (Option Secret) × Network :=
  match client.endpoint with
  | .error error => (.error (.invalidEndpoint error), network)
  | .ok endpoint =>
    let (response, network) := network.send client.http (client.post endpoint request)
    (ExchangeResponse.conclude present response, network)

end RegistryClient

structure ClientFactory where
  shared : Option HttpClient

namespace ClientFactory

def build (factory : ClientFactory) (server : Url) (options : ClientOptions) :
    Except ExchangeError RegistryClient :=
  if ¬ Url.isWeb server.scheme then .error (.unsupportedServerUrl server.toText)
  else
    match factory.shared, decide (options = .default) with
    | some http, true => .ok ⟨server, http⟩
    | _, _ =>
      if options.userAgent.all ClientOptions.isUsableName then
        .ok ⟨server, .configured options.userAgent⟩
      else .error .clientBuild

end ClientFactory

end RegistryLogin
