import RegistryLogin.Json.Reading
import RegistryLogin.Reference.Resolution
import RegistryLogin.Settings.Basic
import RegistryLogin.Time.Duration

/-! Everything that can go wrong on the way to a credential, step by step. -/

namespace RegistryLogin

inductive FileError
  | notFound
  | notText
  | isDirectory
  | notDirectory
deriving DecidableEq

inductive IdentityError
  | tokenFile (path : String) (error : FileError)
  | emptyTokenFile (path : String)
  | invalidEndpoint (error : Url.Error)
  | rejected (code : String) (description : Option String) (status : Option Nat)
  | transport
  | parse (fault : Json.Fault) (status : Option Nat)
  | unexpected (detail : String) (status : Option Nat) (retryAfter : Option Duration)
  | missingExpiresIn
  | expiresInOutOfRange
  | expiresInNotPositive
deriving DecidableEq

def IdentityError.message : IdentityError → String
  | .tokenFile path _ => "Failed to read the federated token file \x60" ++ path ++ "\x60."
  | .emptyTokenFile path => "Federated token file \x60" ++ path ++ "\x60 is empty."
  | .invalidEndpoint _ => "Token endpoint URL could not be built."
  | .rejected code _ _ => "Identity provider rejected the token request: " ++ code ++ "."
  | .transport => "Network error occurred while calling the identity provider."
  | .parse _ _ => "Identity provider returned malformed JSON."
  | .unexpected detail _ _ =>
    "Identity provider returned an unexpected response: " ++ detail ++ "."
  | .missingExpiresIn => "Identity token response is missing expires_in."
  | .expiresInOutOfRange => "The expires_in value exceeds the supported range."
  | .expiresInNotPositive => "The expires_in value must be positive."

inductive ExchangeError
  | unsupportedServerUrl (url : String)
  | invalidEndpoint (error : Url.Error)
  | clientBuild
  | transport
  | status (status : Nat) (preview : String) (retryAfter : Option Duration)
  | parse (fault : Json.Fault) (status : Nat)
deriving DecidableEq

def ExchangeError.message : ExchangeError → String
  | .unsupportedServerUrl url => "Registry server URL \x60" ++ url ++ "\x60 must use http or https."
  | .invalidEndpoint _ => "Registry exchange endpoint could not be built."
  | .clientBuild => "HTTP client could not be constructed."
  | .transport => "Network error occurred while calling the registry exchange endpoint."
  | .status code _ _ => "Registry exchange endpoint returned HTTP " ++ toString code ++ "."
  | .parse _ _ => "Registry exchange endpoint returned malformed JSON."

inductive Cause
  | identity (error : IdentityError)
  | exchange (error : ExchangeError)
  | url (error : Url.Error)
  | other (message : String)
deriving DecidableEq

def Cause.message : Cause → String
  | .identity error => error.message
  | .exchange error => error.message
  | .url error => error.message
  | .other message => message

inductive LoginError
  | settings (error : SettingsError)
  | hostResolution (error : HostError)
  | identityRefresh (cause : Cause)
  | clientConstruction (cause : Cause)
  | registryExchange (cause : Cause)
  | missingRefreshToken (host : String)
deriving DecidableEq

def LoginError.message : LoginError → String
  | .settings error => error.message
  | .hostResolution _ => "Failed to resolve the registry host."
  | .identityRefresh _ => "Failed to refresh the identity access token."
  | .clientConstruction _ => "Failed to construct the registry authentication client."
  | .registryExchange _ => "Failed to exchange the identity token for a registry refresh token."
  | .missingRefreshToken host => "Registry \x60" ++ host ++ "\x60 returned no refresh token."

end RegistryLogin
