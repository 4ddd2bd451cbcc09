import RegistryLogin.Url.Basic
import RegistryLogin.Url.Idna.Domain

namespace RegistryLogin.Host

open RegistryLogin.Text

def bracketed? : List Char → Option (Except Url.Error Host)
  | '[' :: cs =>
    match cs.reverse with
    | ']' :: reversed =>
      match Url.Ipv6.parse? reversed.reverse with
      | some groups => some (.ok (.ipv6 groups))
      | .none => some (.error .invalidIpv6)
    | _ => some (.error .invalidIpv6)
  | _ => .none

def ofDomain (cs : List Char) : Except Url.Error Host :=
  match Url.Idna.toAscii? (Utf8.decodeLossy (Url.Percent.decodeText cs)) with
  | .none => .error .invalidDomain
  | some [] => .error .emptyHost
  | some domain =>
    if Url.Ipv4.endsInNumber domain then
      match Url.Ipv4.parse? domain with
      | some address => .ok (.ipv4 address)
      | .none => .error .invalidIpv4
    else .ok (.name domain)

def isDelimiter (c : Char) : Bool :=
  ['\x00', '\t', '\n', '\r', ' ', '#', '/', ':', '<', '>', '?', '@', '[', '\\', ']', '^',
    '|'].contains c

def ofOpaque (cs : List Char) : Except Url.Error Host :=
  if cs.any isDelimiter then .error .invalidDomainCharacter
  else .ok (.name (Url.Percent.encode Url.Percent.isControl cs))

def parse (special : Bool) (cs : List Char) : Except Url.Error Host :=
  match bracketed? cs with
  | some result => result
  | .none => if special then ofDomain cs else ofOpaque cs

end RegistryLogin.Host
