import RegistryLogin.Url.Percent
import RegistryLogin.Url.Address

/-! Absolute URLs in normal form. -/

namespace RegistryLogin

inductive Host
  | name (text : List Char)
  | ipv4 (address : Nat)
  | ipv6 (groups : List Nat)
deriving DecidableEq

namespace Host

def none : Host := .name []

def toText : Host → List Char
  | .name text => text
  | .ipv4 address => Url.Ipv4.toText address
  | .ipv6 groups => '[' :: Url.Ipv6.toText groups ++ [']']

end Host

structure Authority where
  username : List Char
  password : List Char
  host : Host
  port : Option Nat
deriving DecidableEq

namespace Authority

def empty : Authority := ⟨[], [], .none, .none⟩

def userinfo (a : Authority) : List Char :=
  if a.password = [] then if a.username = [] then [] else a.username ++ ['@']
  else a.username ++ ':' :: a.password ++ ['@']

def portText : Option Nat → List Char
  | .none => []
  | some port => ':' :: Nat.toDigits 10 port

def location (a : Authority) : List Char := a.host.toText ++ portText a.port

def toText (a : Authority) : List Char := '/' :: '/' :: a.userinfo ++ a.location

end Authority

inductive UrlPath
  | opaquely (text : List Char)
  | segments (list : List (List Char))
deriving DecidableEq

namespace UrlPath

def toText : UrlPath → List Char
  | .opaquely text => text
  | .segments list => list.flatMap ('/' :: ·)

def isOpaque : UrlPath → Bool
  | .opaquely _ => true
  | .segments _ => false

def asDirectory : UrlPath → UrlPath
  | .opaquely [] => .opaquely ['%', '2', 'F']
  | .opaquely text => if text.getLast? = some '/' then .opaquely text else .opaquely (text ++ ['/'])
  | .segments list => if list.getLast? = some [] then .segments list else .segments (list ++ [[]])

end UrlPath

structure Url where
  scheme : List Char
  authority : Option Authority
  path : UrlPath
  query : Option (List Char)
  fragment : Option (List Char)
deriving DecidableEq

namespace Url

def authorityText (url : Url) : List Char :=
  match url.authority with
  | some a => a.toText
  | none =>
    -- Two slashes at the start of a path must not look like an authority.
    match url.path.toText with
    | '/' :: '/' :: _ => ['/', '.']
    | _ => []

def optionalText (mark : Char) : Option (List Char) → List Char
  | none => []
  | some text => mark :: text

def chars (url : Url) : List Char :=
  url.scheme ++ ':' :: url.authorityText ++ url.path.toText ++ optionalText '?' url.query ++
    optionalText '#' url.fragment

def toText (url : Url) : String := String.ofList url.chars

def asDirectory (url : Url) : Url := { url with path := url.path.asDirectory }

def isSpecial (scheme : List Char) : Bool :=
  ["http", "https", "ws", "wss", "ftp", "file"].any (·.toList == scheme)

def isFile (scheme : List Char) : Bool := scheme == ['f', 'i', 'l', 'e']

def isWeb (scheme : List Char) : Bool :=
  scheme == ['h', 't', 't', 'p'] || scheme == ['h', 't', 't', 'p', 's']

def defaultPort? (scheme : List Char) : Option Nat :=
  ([("http", 80), ("https", 443), ("ws", 80), ("wss", 443), ("ftp", 21)].find?
    (·.1.toList == scheme)).map (·.2)

def origin (url : Url) : List Char × Option (Host × Option Nat) :=
  (url.scheme, url.authority.map fun a => (a.host, a.port))

inductive Error
  | emptyHost
  | invalidDomain
  | invalidPort
  | invalidIpv4
  | invalidIpv6
  | invalidDomainCharacter
  | relativeWithoutBase
  | relativeToOpaque
deriving DecidableEq, Repr

def Error.message : Error → String
  | .emptyHost => "empty host"
  | .invalidDomain => "invalid international domain name"
  | .invalidPort => "invalid port number"
  | .invalidIpv4 => "invalid IPv4 address"
  | .invalidIpv6 => "invalid IPv6 address"
  | .invalidDomainCharacter => "invalid domain character"
  | .relativeWithoutBase => "relative URL without a base"
  | .relativeToOpaque => "relative URL with a cannot-be-a-base base"

end Url

end RegistryLogin
