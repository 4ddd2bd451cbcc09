import RegistryLogin.Text.Category
import RegistryLogin.Url.Idna.Mapping
import RegistryLogin.Url.Idna.Punycode
import RegistryLogin.Url.Idna.DirectionTable
import RegistryLogin.Url.Idna.JoiningTable

namespace RegistryLogin.Url.Idna

open RegistryLogin.Text

def directions : List (Run (List Char)) := Run.ofTable directionRuns

def direction (c : Char) : String := String.ofList ((Run.label? directions c.toNat).getD ['L'])

def isRightToLeft (c : Char) : Bool := ["R", "AL", "AN"].contains (direction c)

def lastDirection (label : List Char) : Option String :=
  (label.reverse.map direction).find? (· != "NSM")

def hasClearDirection (label : List Char) : Bool :=
  let all := label.map direction
  let neutral := ["EN", "ES", "CS", "ET", "ON", "BN", "NSM"]
  match all with
  | [] => true
  | first :: _ =>
    if first == "L" then
      all.all (fun d => d == "L" || neutral.contains d) &&
        ["L", "EN"].any (lastDirection label == some ·)
    else if first == "R" || first == "AL" then
      all.all (fun d => ["R", "AL", "AN"].contains d || neutral.contains d) &&
        ["R", "AL", "EN", "AN"].any (lastDirection label == some ·) &&
        !(all.contains "EN" && all.contains "AN")
    else false

def joiningTypes : List (Run (List Char)) := Run.ofTable joiningRuns

def joining (c : Char) : List Char := (Run.label? joiningTypes c.toNat).getD ['U']

def joins (types : List Char) (cs : List Char) : Bool :=
  match cs.dropWhile (joining · == ['T']) with
  | [] => false
  | c :: _ => types.any (joining c == [·])

def joinersFit (before : List Char) : List Char → Bool
  | [] => true
  | c :: rest =>
    let virama := before.head?.any (combiningClass · == 9)
    let fits :=
      if c.toNat = 0x200D then virama
      else if c.toNat = 0x200C then virama || (joins ['L', 'D'] before && joins ['R', 'D'] rest)
      else true
    fits && joinersFit (c :: before) rest

def isForbidden (c : Char) : Bool :=
  c.toNat < 0x20 || c.toNat == 0x7F ||
    [' ', '#', '/', ':', '<', '>', '?', '@', '[', '\\', ']', '^', '|', '%'].contains c

def isProper (label : List Char) : Bool :=
  label.all (fun c => isValid c && !isForbidden c) && composed label == label &&
    !(label.head?.any isMark) && joinersFit [] label

structure Label where
  shown : List Char
  ascii : List Char

def isAscii (cs : List Char) : Bool := cs.all (·.toNat < 128)

def encodedStart : List Char := ['x', 'n', '-', '-']

def longestShown : Nat := 1000
def longestEncoded : Nat := 2000

def label? (label : List Char) : Option Label :=
  if label.take 4 = encodedStart then do
    guard (label.length ≤ longestEncoded + 4)
    let shown ← Punycode.decode? (label.drop 4)
    guard (!isAscii shown && isProper shown && shown.take 4 != encodedStart)
    some ⟨shown, label⟩
  else do
    guard (isProper label)
    if isAscii label then some ⟨label, label⟩
    else do
      guard (label.length ≤ longestShown)
      some ⟨label, encodedStart ++ Punycode.encode label⟩

def joinLabels : List (List Char) → List Char
  | [] => []
  | [label] => label
  | label :: rest => label ++ '.' :: joinLabels rest

def toAscii? (name : List Char) : Option (List Char) := do
  let mapped ← name.mapM mapped?
  let labels ← (splitOn '.' (composed mapped.flatten)).mapM label?
  if labels.any (·.shown.any isRightToLeft) && !labels.all (hasClearDirection ·.shown) then none
  else some (joinLabels (labels.map (·.ascii)))

end RegistryLogin.Url.Idna
