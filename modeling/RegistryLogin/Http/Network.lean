import RegistryLogin.Http.Base64
import RegistryLogin.Http.Metadata
import RegistryLogin.Http.Target
import RegistryLogin.Url.Parser

/-! Requests and their answers. -/

namespace RegistryLogin

open Text

inductive Answer
  | reply (status : Nat) (headers : List Header) (body : Bytes) (announced : Option Nat)
  | silence

structure Response where
  status : Nat
  headers : List Header
  body : Option Bytes

namespace Answer

def delivered (body : Bytes) : Option Nat → Option Bytes
  | none => some body
  | some n => if n ≤ body.length then some (body.take n) else none

def blank (b : UInt8) : Bool := b == 0x20 || b == 0x09

def trimmed (header : Header) : Header :=
  ⟨header.name, ((header.value.dropWhile blank).reverse.dropWhile blank).reverse⟩

def response? : Answer → Option Response
  | .silence => none
  | .reply status headers body announced =>
    some ⟨status, headers.map trimmed, delivered body announced⟩

end Answer

inductive Method
  | post
  | get
deriving DecidableEq

structure Request where
  method : Method
  url : Url
  accept : String
  userAgent : Option String
  authorization : Option String
  body : List Char

namespace Request

def target (url : Url) : Url :=
  { url with
    authority := url.authority.map fun a => { a with username := [], password := [] }
    fragment := none }

def basicAuthorization? (url : Url) : Option String := do
  let a ← url.authority
  if a.username = [] ∧ a.password = [] then none
  else
    some ("Basic " ++ String.ofList (Base64.encode
      (Url.Percent.decodeText a.username ++ 0x3A :: Url.Percent.decodeText a.password)))

def peer (url : Url) : Option (List Char × Nat) :=
  url.authority.map fun a => (a.host.toText, a.port.getD ((Url.defaultPort? url.scheme).getD 0))

def destination? (request : Request) (response : Response) : Option Url := do
  let value ← Header.first? "location" response.headers
  let text ← Utf8.decode? value
  let url ← (request.url.join (String.ofList text)).toOption
  let _ ← (Target.check url.chars).toOption
  some url

def redirectStatuses : List Nat := [301, 302, 303, 307, 308]

def isRepeated (status : Nat) : Bool := status = 307 || status = 308

/-- The request that an answer sends a client on with. Another host does not see the authorization. -/
def next? (request : Request) (response : Response) : Option Request :=
  if redirectStatuses.contains response.status then
    (destination? request response).map fun url =>
      { request with
        method := if isRepeated response.status then request.method else .get
        url := target url
        authorization := if peer url = peer request.url then request.authorization else none
        body := if isRepeated response.status then request.body else [] }
  else none

end Request

inductive Redirects
  | refused
  | followed (most : Nat)
deriving DecidableEq

structure HttpClient where
  userAgent : Option String
  redirects : Redirects
deriving DecidableEq

namespace HttpClient

def default : HttpClient := ⟨none, .followed 10⟩

def configured (userAgent : Option String) : HttpClient := ⟨userAgent, .refused⟩

end HttpClient

structure Network where
  reachable : Bool
  answers : List Answer
  seen : List Request

namespace Network

def unreachable : Network := ⟨false, [], []⟩

def ask (request : Request) (network : Network) : Option Response × Network :=
  if network.reachable ∧ Url.isWeb request.url.scheme then
    let seen := network.seen ++ [request]
    match network.answers with
    | [] => (none, { network with seen := seen })
    | answer :: rest => (answer.response?, { network with answers := rest, seen := seen })
  else (none, network)

/-- A client that has gone on as often as it may gives up. -/
def follow (most : Nat) (request : Request) (network : Network) : Option Response × Network :=
  let asked := network.ask request
  match asked.1.bind request.next? with
  | none => asked
  | some next =>
    match most with
    | 0 => (none, asked.2)
    | further + 1 => follow further next asked.2

def send (client : HttpClient) (request : Request) (network : Network) : Option Response × Network :=
  match client.redirects with
  | .refused => network.ask request
  | .followed most => network.follow most request

end Network

structure Delivery where
  status : Nat
  headers : List Header
  body : Bytes

/-- The slot tells of the head of this answer, if there was one, and of no answer before it. -/
def MetadataSlot.deliver (present : Instant) (response : Option Response) (slot : MetadataSlot) :
    Option Delivery × MetadataSlot :=
  match response with
  | none => (none, slot.take.2)
  | some r =>
    (r.body.map fun body => ⟨r.status, r.headers, body⟩,
      slot.take.2.store (Metadata.ofResponse present r.status r.headers))

end RegistryLogin
