import RegistryLogin.Text.Hex

/-! Network addresses as hosts: the number forms of IPv4 and the groups of IPv6. -/

namespace RegistryLogin.Url

open RegistryLogin.Text

namespace Ipv4

def isDecimal (c : Char) : Bool := c.isDigit
def isOctal (c : Char) : Bool := '0' ≤ c && c ≤ '7'
def isHex (c : Char) : Bool := (hexValue? c).isSome

def value (base : Nat) (cs : List Char) : Nat :=
  cs.foldl (fun n c => base * n + (hexValue? c).getD 0) 0

def number? : List Char → Option Nat
  | [] => none
  | '0' :: 'x' :: cs | '0' :: 'X' :: cs => if cs.all isHex then some (value 16 cs) else none
  | '0' :: c :: cs => if (c :: cs).all isOctal then some (value 8 (c :: cs)) else none
  | cs => if cs.all isDecimal then some (value 10 cs) else none

def labels (name : List Char) : List (List Char) :=
  match (splitOn '.' name).reverse with
  | [] :: label :: rest => (label :: rest).reverse
  | reversed => reversed.reverse

def endsInNumber (name : List Char) : Bool :=
  match (labels name).getLast? with
  | none | some [] => false
  | some label => label.all isDecimal || (number? label).isSome

def combine : Nat → List Nat → Option Nat
  | _, [] => none
  | room, [last] => if last < 256 ^ room then some last else none
  | room, n :: rest =>
    if n < 256 then (combine (room - 1) rest).map (n * 256 ^ (room - 1) + ·) else none

def parse? (name : List Char) : Option Nat := do
  let numbers ← (labels name).mapM number?
  if 4 < numbers.length then none else combine 4 numbers

def toText (address : Nat) : List Char :=
  Nat.toDigits 10 (address / 16777216 % 256) ++ '.' :: Nat.toDigits 10 (address / 65536 % 256) ++
    '.' :: Nat.toDigits 10 (address / 256 % 256) ++ '.' :: Nat.toDigits 10 (address % 256)

end Ipv4

namespace Ipv6

def group? (cs : List Char) : Option Nat :=
  if cs.isEmpty ∨ 4 < cs.length ∨ ¬ cs.all Ipv4.isHex then none else some (hexNumber cs)

def byte? (cs : List Char) : Option Nat :=
  if cs.isEmpty ∨ ¬ cs.all Ipv4.isDecimal ∨ (cs.head? = some '0' ∧ 1 < cs.length) then none
  else if Ipv4.value 10 cs < 256 then some (Ipv4.value 10 cs) else none

def dotted? (cs : List Char) : Option (List Nat) := do
  match ← (splitOn '.' cs).mapM byte? with
  | [a, b, c, d] => some [256 * a + b, 256 * c + d]
  | _ => none

def groups? (final : Bool) : List (List Char) → Option (List Nat)
  | [] => some []
  | [cs] =>
    if final && cs.contains '.' then dotted? cs else (group? cs).map ([·])
  | cs :: rest => do
    let group ← group? cs
    let groups ← groups? final rest
    some (group :: groups)

def side? (final : Bool) (cs : List Char) : Option (List Nat) :=
  if cs.isEmpty then some [] else groups? final (splitOn ':' cs)

def cutAtPair? : List Char → Option (List Char × List Char)
  | ':' :: ':' :: cs => some ([], cs)
  | [] => none
  | c :: cs => (cutAtPair? cs).map fun (before, after) => (c :: before, after)

def parse? (cs : List Char) : Option (List Nat) :=
  match cutAtPair? cs with
  | none => do
    let groups ← groups? true (splitOn ':' cs)
    if groups.length = 8 then some groups else none
  | some (before, after) => do
    let left ← side? false before
    let right ← side? true after
    if left.length + right.length ≤ 7 then
      some (left ++ List.replicate (8 - left.length - right.length) 0 ++ right)
    else none

def zeros (groups : List Nat) : Nat := (groups.takeWhile (· = 0)).length

def longestZeros : List Nat → Nat × Nat
  | [] => (0, 0)
  | g :: groups =>
    let (start, length) := longestZeros groups
    if length ≤ zeros (g :: groups) then (0, zeros (g :: groups)) else (start + 1, length)

def joined : List Nat → List Char
  | [] => []
  | [g] => lowerHex g
  | g :: groups => lowerHex g ++ ':' :: joined groups

def toText (groups : List Nat) : List Char :=
  let (start, length) := longestZeros groups
  if length < 2 then joined groups
  else joined (groups.take start) ++ [':', ':'] ++ joined (groups.drop (start + length))

end Ipv6

end RegistryLogin.Url
