import RegistryLogin.Url.Idna.Composition
import RegistryLogin.Url.Idna.MappingTable

/-! What a character of a domain name is mapped to, if it may stand there at all. -/

namespace RegistryLogin.Url.Idna

open RegistryLogin.Text

inductive Rule
  | valid
  | disallowed
  | ignored
  | shifted (distance : Int)
  | alternating
  | fixed (target : List Char)

def targetText (cs : List Char) : List Char := (splitOn '.' cs).map hexChar

def distance (sign : Char) (cs : List Char) : Int :=
  if sign = '-' then -(hexNumber cs : Int) else hexNumber cs

def Rule.ofEntry (entry : List Char) : Run Rule :=
  match entry with
  | 'v' :: cs => ⟨.valid, hexNumber cs⟩
  | 'x' :: cs => ⟨.disallowed, hexNumber cs⟩
  | 'i' :: cs => ⟨.ignored, hexNumber cs⟩
  | 'p' :: cs => ⟨.alternating, 2 * hexNumber cs⟩
  | 'm' :: cs =>
    let length := cs.takeWhile fun c => c != '+' && c != '-'
    match cs.drop length.length with
    | sign :: digits => ⟨.shifted (distance sign digits), hexNumber length⟩
    | [] => ⟨.valid, hexNumber length⟩
  | 's' :: cs =>
    match cutAt? '=' cs with
    | some (length, target) => ⟨.fixed (targetText target), hexNumber length⟩
    | none => ⟨.disallowed, 0⟩
  | '=' :: cs => ⟨.fixed (targetText cs), 1⟩
  | _ => ⟨.disallowed, 0⟩

def mappingRules : List (Run Rule) := (Run.entries mappingRuns).map Rule.ofEntry

def ruleAt : List (Run Rule) → Nat → Rule × Nat
  | [], n => (.disallowed, n)
  | run :: runs, n => if n < run.length then (run.label, n) else ruleAt runs (n - run.length)

def mapped? (c : Char) : Option (List Char) :=
  match ruleAt mappingRules c.toNat with
  | (.valid, _) => some [c]
  | (.disallowed, _) => none
  | (.ignored, _) => some []
  | (.shifted distance, _) => some [Char.ofNat (c.toNat + distance).toNat]
  | (.alternating, position) =>
    some [if position % 2 = 0 then Char.ofNat (c.toNat + 1) else c]
  | (.fixed target, _) => some target

def isValid (c : Char) : Bool := mapped? c == some [c]

end RegistryLogin.Url.Idna
