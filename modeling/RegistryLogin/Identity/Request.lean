import RegistryLogin.Login.Errors
import RegistryLogin.Login.IdentityToken

/-! What the identity provider is asked for, and what it issues. -/

namespace RegistryLogin

structure IdentityRequest where
  tenantId : String
  clientId : String
  resource : String
deriving DecidableEq

namespace IdentityRequest

def registryResource : String := "https://containerregistry.azure.net/.default"

end IdentityRequest

inductive Issued
  | expiring (secret : Secret) (expiresOn : Instant)
  | lasting (secret : Secret) (lifetime : Duration)

def Issued.token? (now : Instant) : Issued → Option IdentityToken
  | .expiring secret expiresOn => some ⟨secret, expiresOn⟩
  | .lasting secret lifetime => (now.add? lifetime).map (⟨secret, ·⟩)

end RegistryLogin
