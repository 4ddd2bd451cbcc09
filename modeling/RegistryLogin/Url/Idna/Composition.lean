import RegistryLogin.Text.Hex
import RegistryLogin.Url.Idna.ClassTable
import RegistryLogin.Url.Idna.CompositionTable

namespace RegistryLogin.Url.Idna

open RegistryLogin.Text

def combiningClasses : List (Run (List Char)) := Run.ofTable combiningRuns

def combiningClass (c : Char) : Nat :=
  if c.toNat < 0x300 then 0 else hexNumber ((Run.label? combiningClasses c.toNat).getD [])

structure Composite where
  whole : Char
  first : Char
  second : Char

def hexChar (cs : List Char) : Char := Char.ofNat (hexNumber cs)

def composites : List Composite :=
  (Run.entries compositionPairs).filterMap fun entry => do
    let (parts, whole) ← cutAt? '=' entry
    let (first, second) ← cutAt? '.' parts
    some ⟨hexChar whole, hexChar first, hexChar second⟩

def splitSyllable? (c : Char) : Option (Char × Char) :=
  let n := c.toNat - 0xAC00
  if c.toNat < 0xAC00 ∨ 11172 ≤ n then none
  else if n % 28 = 0 then
    some (Char.ofNat (0x1100 + n / 588), Char.ofNat (0x1161 + n % 588 / 28))
  else some (Char.ofNat (0xAC00 + n / 28 * 28), Char.ofNat (0x11A7 + n % 28))

def joinSyllable? (a b : Char) : Option Char :=
  let m := a.toNat
  let n := b.toNat
  if 0x1100 ≤ m ∧ m < 0x1113 ∧ 0x1161 ≤ n ∧ n < 0x1176 then
    some (Char.ofNat (0xAC00 + (m - 0x1100) * 588 + (n - 0x1161) * 28))
  else if 0xAC00 ≤ m ∧ m < 0xAC00 + 11172 ∧ (m - 0xAC00) % 28 = 0 ∧ 0x11A8 ≤ n ∧ n < 0x11C3 then
    some (Char.ofNat (m + (n - 0x11A7)))
  else none

def split? (c : Char) : Option (Char × Char) :=
  if c.toNat < 0xC0 then none
  else (splitSyllable? c).or ((composites.find? (·.whole == c)).map fun x => (x.first, x.second))

def join? (a b : Char) : Option Char :=
  (joinSyllable? a b).or
    ((composites.find? fun x => x.first == a && x.second == b).map (·.whole))

def parts : (depth : Nat) → Char → List Char
  | 0, c => [c]
  | depth + 1, c =>
    match split? c with
    | none => [c]
    | some (first, second) => parts depth first ++ [second]

def insertMark (c : Char) : List Char → List Char
  | [] => [c]
  | d :: rest =>
    if combiningClass d ≠ 0 ∧ combiningClass d < combiningClass c then d :: insertMark c rest
    else c :: d :: rest

def ordered (cs : List Char) : List Char :=
  cs.foldr (fun c rest => if combiningClass c = 0 then c :: rest else insertMark c rest) []

def composeAfter (starter : Char) (marks : List Char) : List Char → List Char
  | [] => starter :: marks.reverse
  | c :: cs =>
    let open_ := match marks with
      | [] => true
      | mark :: _ => combiningClass mark < combiningClass c
    match if open_ then join? starter c else none with
    | some composite => composeAfter composite marks cs
    | none =>
      if combiningClass c = 0 then starter :: marks.reverse ++ composeAfter c [] cs
      else composeAfter starter (c :: marks) cs

def compose : List Char → List Char
  | [] => []
  | c :: cs => if combiningClass c = 0 then composeAfter c [] cs else c :: compose cs

def composed (cs : List Char) : List Char :=
  if cs.all (·.toNat < 0x300) then cs else compose (ordered (cs.flatMap (parts 4)))

end RegistryLogin.Url.Idna
