import RegistryLogin.Json.Reading

namespace RegistryLogin

open Json

structure Config where
  name : String
  clientId : Option String
deriving DecidableEq

namespace Config

structure Defect where
  misfit : Misfit
  path : Path
deriving DecidableEq

def nameField : String := "name"
def clientField : String := "clientID"

def text (path : Path) : Value → Except Defect String
  | .string s => .ok s
  | value => .error ⟨.wrongType value.shape "a string", path⟩

def optionalText (path : Path) : Option Value → Except Defect (Option String)
  | none | some .null => .ok none
  | some value => (text path value).map some

def ofMembers (value : Value) : Except Defect Config := do
  let clientId ← optionalText (.field clientField) (value.member? clientField)
  match value.member? nameField with
  | none => .error ⟨.missingField nameField, .whole⟩
  | some name => do
    let name ← text (.field nameField) name
    .ok ⟨name, clientId⟩

def ofItems (items : List Value) : Except Defect Config :=
  match items with
  | [] => .error ⟨.wrongLength 0 "struct AuthProviderConfig with 2 elements", .whole⟩
  | first :: rest => do
    let name ← text (.item 0) first
    let clientId ← optionalText (.item 1) rest.head?
    if 1 < rest.length then
      .error ⟨.wrongLength (rest.length + 1) "fewer elements in array", .whole⟩
    else .ok ⟨name, clientId⟩

def ofValue : Value → Except Defect Config
  | .object members => ofMembers (.object members)
  | .array items => ofItems items
  | value => .error ⟨.wrongType value.shape "struct AuthProviderConfig", .whole⟩

def toValue (config : Config) : Value :=
  .object ((nameField, .string config.name) ::
    config.clientId.toList.map fun id => (clientField, .string id))

def providerName : String := "azureWorkloadIdentity"

def isSupported (config : Config) : Bool := config.name == providerName

end Config

end RegistryLogin
