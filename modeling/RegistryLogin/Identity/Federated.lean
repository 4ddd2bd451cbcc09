import RegistryLogin.Http.Form
import RegistryLogin.Identity.Files
import RegistryLogin.Identity.TokenResponse

/-! Identity tokens for a federated workload, in exchange for the assertion in a file. -/

namespace RegistryLogin

open Text

structure FederatedSource where
  tokenFile : String
  authority : Url
  http : HttpClient

structure Surroundings where
  files : Files
  network : Network
  present : Instant
  /-- How many polls each answer to come is waited for. -/
  delays : List Nat

def Surroundings.after (around : Surroundings) (network : Network) : Surroundings :=
  { around with network := network, delays := around.delays.tail }

namespace FederatedSource

def new (tokenFile : String) (authority : Url) : FederatedSource := ⟨tokenFile, authority, .default⟩

def outline (source : FederatedSource) : Outline :=
  .record "FederatedTokenSource"
    [("token_file", .text source.tokenFile), ("authority_host", .text source.authority.toText)]

def assertionType : String := "urn:ietf:params:oauth:client-assertion-type:jwt-bearer"

def assertion (source : FederatedSource) (files : Files) : Except IdentityError String :=
  match files.readText source.tokenFile with
  | .error error => .error (.tokenFile source.tokenFile error)
  | .ok text =>
    match trim text with
    | [] => .error (.emptyTokenFile source.tokenFile)
    | cs => .ok (String.ofList cs)

def endpoint (source : FederatedSource) (tenantId : String) : Except Url.Error Url :=
  source.authority.asDirectory.join (tenantId ++ "/oauth2/v2.0/token")

def form (request : IdentityRequest) (assertion : String) : List Form.Field :=
  [("grant_type", "client_credentials"), ("scope", request.resource),
    ("client_id", request.clientId), ("client_assertion_type", assertionType),
    ("client_assertion", assertion)]

def post (source : FederatedSource) (endpoint : Url) (request : IdentityRequest) (assertion : String) :
    Request where
  method := .post
  url := Request.target endpoint
  accept := "application/json"
  userAgent := source.http.userAgent
  authorization := none
  body := Form.encode (form request assertion)

def conclude (present : Instant) (response : Option Response) : Except IdentityError Issued :=
  match MetadataSlot.empty.deliver present response with
  | (none, _) => .error .transport
  | (some delivery, slot) => (TokenResponse.judge slot.take.1 delivery).bind TokenResponse.issue

def request (source : FederatedSource) (request : IdentityRequest) (around : Surroundings) :
    Except IdentityError Issued × Network :=
  match source.assertion around.files with
  | .error error => (.error error, around.network)
  | .ok assertion =>
    match source.endpoint request.tenantId with
    | .error error => (.error (.invalidEndpoint error), around.network)
    | .ok endpoint =>
      match Target.check endpoint.chars with
      | .error flaw =>
        (.error (.unexpected ("failed to prepare request: " ++ flaw.message) none none),
          around.network)
      | .ok () =>
        let (response, network) := around.network.send source.http (source.post endpoint request assertion)
        (conclude around.present response, network)

end FederatedSource

end RegistryLogin
