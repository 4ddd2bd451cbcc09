import RegistryLogin.Text.Outline

namespace RegistryLogin

structure Secret where
  text : String
deriving DecidableEq

namespace Secret

def empty : Secret := ⟨""⟩

def isEmpty (s : Secret) : Bool := s.text.isEmpty

def mask : String := "<redacted>"

def display (_ : Secret) : String := mask

def outline (_ : Secret) : Text.Outline := .wrapped "TokenSecret" (.text mask)

end Secret

end RegistryLogin
