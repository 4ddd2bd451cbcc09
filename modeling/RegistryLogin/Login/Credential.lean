import RegistryLogin.Login.Secret
import RegistryLogin.Time.Instant

namespace RegistryLogin

open Text

structure Credential where
  username : String
  password : Secret
  expiresOn : Instant
deriving DecidableEq

namespace Credential

def tokenUser : String := "00000000-0000-0000-0000-000000000000"

def ofRefreshToken (refreshToken : Secret) (expiresOn : Instant) : Credential :=
  ⟨tokenUser, refreshToken, expiresOn⟩

def lifetime : Duration := ⟨10800000000000, by decide, by decide⟩

/-- A credential outlives neither the identity token nor the registry's own limit. -/
def earlierExpiry? (identityExpiry now : Instant) : Option Instant :=
  (now.add? lifetime).map identityExpiry.earlier

def same (a b : Credential) : Bool :=
  a.username == b.username && a.password == b.password && a.expiresOn.same b.expiresOn

def outline (c : Credential) : Outline :=
  .record "RegistryCredential" [("username", .text c.username), ("password", .text Secret.mask),
    ("expires_on", .word c.expiresOn.toText)]

end Credential

end RegistryLogin
