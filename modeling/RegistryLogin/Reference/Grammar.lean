import RegistryLogin.Text.Category

/-! Artifact references: a name, an optional tag and an optional digest. -/

namespace RegistryLogin

open Text

inductive ReferenceFlaw
  | format
  | nameTooLong
  | digestLength
  | digestAlgorithm
  | other (text : String)
deriving DecidableEq

def ReferenceFlaw.message : ReferenceFlaw → String
  | .format => "invalid reference format"
  | .nameTooLong => "repository name must not be more than 255 characters"
  | .digestLength => "invalid checksum digest length"
  | .digestAlgorithm => "unsupported digest algorithm"
  | .other text => text

structure Digest where
  algorithm : List Char
  hex : List Char
deriving DecidableEq

structure Reference where
  registry : List Char
  repository : List Char
  tag : Option (List Char)
  digest : Option Digest
deriving DecidableEq

namespace Reference

def isLowerAlphanum (c : Char) : Bool := c.isLower || c.isDigit

def isSeparator (cs : List Char) : Bool :=
  cs == ['.'] || cs == ['_'] || cs == ['_', '_'] || (!cs.isEmpty && cs.all (· == '-'))

def isComponentTail (separator : List Char) : List Char → Bool
  | [] => separator.isEmpty
  | c :: cs =>
    if isLowerAlphanum c then
      (separator.isEmpty || isSeparator separator) && isComponentTail [] cs
    else isComponentTail (c :: separator) cs

def isComponent : List Char → Bool
  | [] => false
  | c :: cs => isLowerAlphanum c && isComponentTail [] cs

def isHostLabel (cs : List Char) : Bool :=
  cs.all (fun c => c.isAlphanum || c == '-') && cs.head?.any Char.isAlphanum &&
    cs.getLast?.any Char.isAlphanum

def isHost (cs : List Char) : Bool :=
  match cutAt? ':' cs with
  | none => (splitOn '.' cs).all isHostLabel
  | some (name, port) =>
    (splitOn '.' name).all isHostLabel && !port.isEmpty && port.all Char.isDigit

def isName (cs : List Char) : Bool :=
  match splitOn '/' cs with
  | [] => false
  | first :: rest =>
    (isComponent first || (!rest.isEmpty && isHost first)) && rest.all isComponent

def isTag : List Char → Bool
  | [] => false
  | c :: cs => isWord c && cs.length ≤ 127 && cs.all fun c => isWord c || c == '.' || c == '-'

def isAlgorithm (cs : List Char) : Bool :=
  let isMark (c : Char) : Bool := ['-', '_', '+', '.'].contains c
  let parts := splitOn '.' (cs.map fun c => if isMark c then '.' else c)
  parts.all fun part => part.head?.any Char.isAlpha && part.all Char.isAlphanum

def isHexDigest (cs : List Char) : Bool := 32 ≤ cs.length && cs.all fun c => (hexValue? c).isSome

def digest? (cs : List Char) : Option Digest := do
  let (algorithm, hex) ← cutAt? ':' cs
  if isAlgorithm algorithm && isHexDigest hex then some ⟨algorithm, hex⟩ else none

def cutTag (cs : List Char) : List Char × Option (List Char) :=
  let last := (cs.reverse.takeWhile (· ≠ '/')).reverse
  match cutAt? ':' last with
  | none => (cs, none)
  | some (component, tag) => (cs.take (cs.length - last.length) ++ component, some tag)

structure Parts where
  name : List Char
  tag : Option (List Char)
  digest : Option Digest

def parts? (cs : List Char) : Option Parts :=
  match cutAt? '@' cs with
  | none =>
    let (name, tag) := cutTag cs
    if isName name && tag.all isTag then some ⟨name, tag, none⟩ else none
  | some (front, digest) => do
    let (name, tag) := cutTag front
    let digest ← digest? digest
    if isName name && tag.all isTag then some ⟨name, tag, some digest⟩ else none

def localHost : List Char := "localhost".toList

def namesRegistry (first : List Char) : Bool :=
  first.contains '.' || first.contains ':' || first == localHost

def publicRegistry : List Char := "docker.io".toList

def publicIndex : List Char := "index.docker.io".toList

def registryPart? (name : List Char) : Option (List Char × List Char) :=
  (cutAt? '/' name).filter fun (first, _) => namesRegistry first

/-- Registry and repository; the public registry keeps unqualified names in its library. -/
def locate (name : List Char) : List Char × List Char :=
  let (registry, repository) := (registryPart? name).getD (publicRegistry, name)
  let registry := if registry = publicIndex then publicRegistry else registry
  if registry = publicRegistry ∧ ¬ repository.contains '/' then
    (registry, "library/".toList ++ repository)
  else (registry, repository)

def longestRepository : Nat := 255

def digestDigits? (algorithm : List Char) : Option Nat :=
  ([("sha256", 64), ("sha384", 96), ("sha512", 128)].find? (·.1.toList == algorithm)).map (·.2)

def checkDigest (digest : Digest) : Except ReferenceFlaw Unit :=
  match digestDigits? digest.algorithm with
  | none => .error .digestAlgorithm
  | some n => if digest.hex.length = n then .ok () else .error .digestLength

def parse (cs : List Char) : Except ReferenceFlaw Reference :=
  match parts? cs with
  | none => .error .format
  | some ⟨name, tag, digest⟩ => do
    let (registry, repository) := locate name
    if longestRepository < repository.length then .error .nameTooLong
    else
      match digest with
      | none => .ok ⟨registry, repository, some (tag.getD "latest".toList), none⟩
      | some d => do
        checkDigest d
        .ok ⟨registry, repository, tag, some d⟩

end Reference

end RegistryLogin
