import RegistryLogin.Reference.Grammar
import RegistryLogin.Url.Parser

namespace RegistryLogin

open Text

inductive HostError
  | empty
  | implicitRegistry (reference : String)
  | malformed (reference : String) (flaw : ReferenceFlaw)
  | invalidRegistry (host : String)
deriving DecidableEq

def HostError.message : HostError → String
  | .empty => "Artifact reference cannot be empty."
  | .implicitRegistry reference =>
    "Artifact reference \x60" ++ reference ++ "\x60 does not name a registry."
  | .malformed reference _ => "Artifact reference \x60" ++ reference ++ "\x60 is malformed."
  | .invalidRegistry host => "Registry host \x60" ++ host ++ "\x60 is invalid."

def serverUrl (host : String) : Except Url.Error Url := Url.parse ("https://" ++ host)

namespace Reference

def resolveHost (reference : String) : Except HostError String :=
  if reference.isEmpty then .error .empty
  else
    match registryPart? reference.toList with
    | none => .error (.implicitRegistry reference)
    | some (registry, _) =>
      match parse reference.toList with
      | .error flaw => .error (.malformed reference flaw)
      | .ok _ =>
        let host := String.ofList registry
        match serverUrl host with
        | .error _ => .error (.invalidRegistry host)
        | .ok _ => .ok host

end Reference

end RegistryLogin
