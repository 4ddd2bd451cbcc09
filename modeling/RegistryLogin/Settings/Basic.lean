import RegistryLogin.Settings.Config
import RegistryLogin.Settings.Environment
import RegistryLogin.Text.Outline
import RegistryLogin.Url.Parser

/-! The settings of a provider, from its declared choice and the environment. -/

namespace RegistryLogin

def tenantVariable : String := "AZURE_TENANT_ID"
def clientVariable : String := "AZURE_CLIENT_ID"
def tokenFileVariable : String := "AZURE_FEDERATED_TOKEN_FILE"
def authorityVariable : String := "AZURE_AUTHORITY_HOST"

inductive Denial
  | tenantEmpty
  | clientEmpty
  | variablesEmpty (names : List String)
  | other (detail : String)
deriving DecidableEq

def Denial.detail : Denial → String
  | .tenantEmpty => "azure tenant id environment variable is empty"
  | .clientEmpty => "no client ID provided and " ++ clientVariable ++ " environment variable is empty"
  | .variablesEmpty names =>
    "required environment variables not set, " ++
      Text.Outline.joinWith ", " (names.map (· ++ ": "))
  | .other detail => detail

inductive SettingsError
  | denied (denial : Denial)
  | malformed (defect : Config.Defect)
  | unsupported (name : String)
  | invalidAuthority (value : String) (error : Url.Error)
deriving DecidableEq

def SettingsError.message : SettingsError → String
  | .denied denial => "Authentication denied: " ++ denial.detail ++ "."
  | .malformed _ => "Auth provider configuration is malformed."
  | .unsupported name => "Auth provider \x60" ++ name ++ "\x60 is not supported."
  | .invalidAuthority value _ => "Authority host \x60" ++ value ++ "\x60 is not a valid URL."

structure Settings where
  tenantId : String
  clientId : String
  tokenFile : String
  authority : Url
deriving DecidableEq

namespace Settings

def chosenClient (config : Config) (env : Environment) : String :=
  match config.clientId with
  | some id => if id.isEmpty then env.valueOrEmpty clientVariable else id
  | none => env.valueOrEmpty clientVariable

def missing (env : Environment) : List String :=
  [tokenFileVariable, authorityVariable].filter fun name => (env.valueOrEmpty name).isEmpty

def ensureSupported (config : Config) : Except SettingsError Unit :=
  if config.isSupported then .ok () else .error (.unsupported config.name)

def resolve (config : Config) (env : Environment) : Except SettingsError Settings := do
  ensureSupported config
  let tenant := env.valueOrEmpty tenantVariable
  if tenant.isEmpty then .error (.denied .tenantEmpty)
  else if (chosenClient config env).isEmpty then .error (.denied .clientEmpty)
  else if missing env ≠ [] then .error (.denied (.variablesEmpty (missing env)))
  else
    let authority := env.valueOrEmpty authorityVariable
    match Url.parse authority with
    | .error error => .error (.invalidAuthority authority error)
    | .ok url => .ok ⟨tenant, chosenClient config env, env.valueOrEmpty tokenFileVariable, url⟩

def ofConfig (value : Json.Value) (env : Environment) : Except SettingsError Settings :=
  match Config.ofValue value with
  | .error defect => .error (.malformed defect)
  | .ok config => resolve config env

end Settings

end RegistryLogin
