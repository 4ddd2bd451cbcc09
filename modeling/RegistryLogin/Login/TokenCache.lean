import RegistryLogin.Login.IdentityToken

/-! The one identity token that a provider keeps. -/

namespace RegistryLogin

open Text

structure TokenCache where
  current : Option IdentityToken
deriving DecidableEq

namespace TokenCache

def empty : TokenCache := ⟨none⟩

def hasAccessToken (cache : TokenCache) : Bool :=
  cache.current.any fun token => !token.accessToken.isEmpty

def freshAt? (cache : TokenCache) (now : Instant) (margin : Duration) :
    Option (Option IdentityToken) :=
  match cache.current with
  | none => some none
  | some token => (token.isStaleAt? now margin).map fun stale => if stale then none else some token

def outline (cache : TokenCache) : Outline :=
  .record "IdentityTokenCache" [("current", .ofOption IdentityToken.outline cache.current)]

end TokenCache

end RegistryLogin
