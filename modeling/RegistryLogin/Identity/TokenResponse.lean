import RegistryLogin.Http.Network
import RegistryLogin.Identity.Request

namespace RegistryLogin

open Json Text

structure Grant where
  accessToken : String
  expiresIn : Option Int

namespace Grant

structure Draft where
  accessToken : Option String
  tokenType : Option String
  expiresIn : Option (Option Int)
  refreshToken : Option (Option String)
  scope : Option (Option String)

namespace Draft

def empty : Draft := ⟨none, none, none, none, none⟩

def depth : Nat := 127

def visit (draft : Draft) (key : String) (node : Node) : Reading Draft :=
  if key = "access_token" then
    (fill key Node.text node draft.accessToken).map fun x => { draft with accessToken := x }
  else if key = "token_type" then
    (fill key Node.text node draft.tokenType).map fun x => { draft with tokenType := x }
  else if key = "expires_in" then
    (fill key (Node.optional (Node.integer .u64)) node draft.expiresIn).map fun x =>
      { draft with expiresIn := x }
  else if key = "refresh_token" then
    (fill key (Node.optional Node.text) node draft.refreshToken).map fun x =>
      { draft with refreshToken := x }
  else if key = "scope" then
    (fill key (Node.optional Node.text) node draft.scope).map fun x => { draft with scope := x }
  else (Reading.ofBreak (node.readAny depth)).map fun _ => draft

def complete (draft : Draft) : Reading Grant := do
  let accessToken ← required "access_token" draft.accessToken
  let _ ← required "token_type" draft.tokenType
  .ok ⟨accessToken, draft.expiresIn.getD none⟩

end Draft

def read : Node → Reading Grant
  | .object members tail => do
    let draft ← visitObject Draft.visit Draft.empty members tail
    draft.complete
  | node => node.mismatch "struct StandardTokenResponse"

end Grant

structure Rejection where
  code : String
  description : Option String

namespace Rejection

structure Draft where
  code : Option String
  description : Option (Option String)
  uri : Option (Option String)

def Draft.visit (draft : Draft) (key : String) (node : Node) : Reading Draft :=
  if key = "error" then
    (fill key Node.text node draft.code).map fun x => { draft with code := x }
  else if key = "error_description" then
    (fill key (Node.optional Node.text) node draft.description).map fun x =>
      { draft with description := x }
  else if key = "error_uri" then
    (fill key (Node.optional Node.text) node draft.uri).map fun x => { draft with uri := x }
  else (Reading.ofBreak node.skip).map fun _ => draft

def read : Node → Reading Rejection
  | .object members tail => do
    let draft ← visitObject Draft.visit ⟨none, none, none⟩ members tail
    let code ← required "error" draft.code
    .ok ⟨code, draft.description.getD none⟩
  | .array items tail => do
    let expected := Misfit.wrongLength 0 "struct StandardErrorResponse with 3 elements"
    let code ← requiredItem expected Node.text items tail 0
    let description ← optionalItem none (Node.optional Node.text) items tail 1
    let _ ← optionalItem none (Node.optional Node.text) items tail 2
    endArray 3 items tail
    .ok ⟨code, description⟩
  | node => node.mismatch "struct StandardErrorResponse"

end Rejection

namespace TokenResponse

def jsonType : List Char := "application/json".toList

def isJson (contentType : Bytes) : Bool :=
  match Header.text? contentType with
  | none => false
  | some text => (text.map Char.toLower).take jsonType.length == jsonType

def shown (value : Bytes) : String :=
  String.ofList (['"'] ++ value.flatMap (fun b =>
    if b == 0x22 then ['\\', '"']
    else if b == 0x09 || (0x20 ≤ b.toNat && b.toNat < 0x7F) then [Char.ofNat b.toNat]
    else ['\\', 'x'] ++ lowerHex b.toNat) ++ ['"'])

def grant (unexpected : String → IdentityError) (status : Option Nat) (delivery : Delivery) :
    Except IdentityError Grant :=
  match (Header.first? "content-type" delivery.headers).filter (!isJson ·) with
  | some contentType =>
    .error (unexpected ("unexpected response Content-Type: " ++ shown contentType ++
      ", should be \x60application/json\x60"))
  | none =>
    if delivery.body.isEmpty then .error (unexpected "server returned empty response body")
    else (readFirst Grant.read delivery.body).mapError (.parse · status)

def rejection (unexpected : String → IdentityError) (status : Option Nat) (body : Bytes) :
    IdentityError :=
  if body.isEmpty then unexpected "server returned empty error response"
  else
    match readFirst Rejection.read body with
    | .ok rejection => .rejected rejection.code rejection.description status
    | .error fault => .parse fault status

def judge (metadata : Option Metadata) (delivery : Delivery) : Except IdentityError Grant :=
  let status := metadata.bind (·.status)
  let unexpected (detail : String) : IdentityError :=
    .unexpected detail status (metadata.bind (·.retryAfter))
  if delivery.status = 200 then grant unexpected status delivery
  else .error (rejection unexpected status delivery.body)

def issue (grant : Grant) : Except IdentityError Issued :=
  match grant.expiresIn with
  | none => .error .missingExpiresIn
  | some seconds =>
    match Duration.ofSeconds? seconds with
    | none => .error .expiresInOutOfRange
    | some lifetime =>
      if lifetime.isPositive then .ok (.lasting ⟨grant.accessToken⟩ lifetime)
      else .error .expiresInNotPositive

end TokenResponse

end RegistryLogin
