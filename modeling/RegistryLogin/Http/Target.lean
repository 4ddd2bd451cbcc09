import RegistryLogin.Url.Basic

/-! Which URLs can be the target of a request. -/

namespace RegistryLogin.Target

inductive Flaw
  | tooLong
  | schemeTooLong
  | format
  | authority
  | character
deriving DecidableEq

def Flaw.message : Flaw → String
  | .tooLong => "uri too long"
  | .schemeTooLong => "scheme too long"
  | .format => "invalid format"
  | .authority => "invalid authority"
  | .character => "invalid uri character"

def longest : Nat := 65534
def longestScheme : Nat := 64

def isSchemeChar (c : Char) : Bool := c.isAlphanum || c == '+' || c == '-' || c == '.'

def scheme? (cs : List Char) : Option (List Char × List Char) :=
  match cs.dropWhile isSchemeChar with
  | ':' :: '/' :: '/' :: rest => some (cs.takeWhile isSchemeChar, rest)
  | _ => none

def isAllowed (c : Char) : Bool :=
  c.isAlphanum || ['!', '$', '&', '\x27', '(', ')', '*', '+', ',', '-', '.', ':', ';', '=', '@', '[',
    ']', '_', '~'].contains c

def endsAuthority (c : Char) : Bool := c == '/' || c == '?' || c == '#'

structure Scan where
  colons : Nat
  opened : Bool
  closed : Bool
  percent : Bool
  atSign : Bool

namespace Scan

def start : Scan := ⟨0, false, false, false, false⟩

def step (scan : Scan) (c : Char) : Except Flaw Scan :=
  let next := { scan with atSign := false }
  if c = ':' then
    if 8 ≤ scan.colons then .error .authority else .ok { next with colons := scan.colons + 1 }
  else if c = '[' then
    if scan.percent ∨ scan.opened then .error .authority else .ok { next with opened := true }
  else if c = ']' then
    if ¬ scan.opened ∨ scan.closed then .error .authority
    else .ok { next with closed := true, colons := 0, percent := false }
  else if c = '@' then .ok { next with colons := 0, percent := false, atSign := true }
  else if c = '%' then .ok { next with percent := true }
  else if isAllowed c then .ok next
  else .error .character

def isComplete (scan : Scan) : Bool :=
  scan.opened == scan.closed && scan.colons ≤ 1 && !scan.atSign && !scan.percent

end Scan

def authorityLength (cs : List Char) : Except Flaw Nat := do
  let text := cs.takeWhile (!endsAuthority ·)
  let scan ← text.foldlM Scan.step Scan.start
  if scan.isComplete then .ok text.length else .error .authority

def check (cs : List Char) : Except Flaw Unit :=
  if longest < cs.length then .error .tooLong
  else
    match scheme? cs with
    | some (scheme, rest) => do
      if longestScheme < scheme.length then .error .schemeTooLong
      else
        let n ← authorityLength rest
        if n = 0 then .error .format else .ok ()
    | none => do
      let n ← authorityLength cs
      if n = cs.length then .ok () else .error .format

end RegistryLogin.Target
