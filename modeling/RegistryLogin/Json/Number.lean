import RegistryLogin.Number.Shortest

namespace RegistryLogin.Json

inductive Number
  | natural (n : Nat)
  | negative (n : Nat)
  | float (x : Binary64)
deriving DecidableEq, Repr

structure Numeral where
  negative : Bool
  whole : List Nat
  fraction : List Nat
  exponent : Option (Bool × List Nat)

namespace Numeral

def largest : Nat := 18446744073709551615

def significand (digits : List Nat) : Nat × Nat :=
  digits.foldl (fun (n, dropped) d =>
    if dropped ≠ 0 then (n, dropped + 1)
    else if largest < n * 10 + d then (n, 1)
    else (n * 10 + d, 0)) (0, 0)

def extended (n : Nat) (digits : List Nat) : Nat × Nat :=
  let (m, used, _) := digits.foldl (fun (n, used, full) d =>
    if full ∨ largest < n * 10 + d then (n, used, true) else (n * 10 + d, used + 1, false))
    (n, 0, false)
  (m, used)

def exponent? (digits : List Nat) : Option Nat :=
  digits.foldl (fun e d => e.bind fun n => if 2147483647 < n * 10 + d then none else some (n * 10 + d))
    (some 0)

def float (x : Numeral) : Option Binary64 :=
  let (n, dropped) := significand x.whole
  let (n, used) := extended n x.fraction
  let start : Int := (dropped : Int) - used
  let magnitude : Option Binary64 :=
    match x.exponent with
    | none => (Binary64.ofNat? n).bind (·.timesPowerOfTen? start)
    | some (down, digits) =>
      match exponent? digits with
      | some e => (Binary64.ofNat? n).bind (·.timesPowerOfTen? (if down then start - e else start + e))
      | none => if n = 0 ∨ down then some Binary64.zero else none
  magnitude.map fun m => { m with negative := x.negative }

def value? (x : Numeral) : Option Number :=
  let (n, dropped) := significand x.whole
  if dropped = 0 ∧ x.fraction = [] ∧ x.exponent = none then
    if ¬ x.negative then some (.natural n)
    else if 1 ≤ n ∧ n ≤ 9223372036854775808 then some (.negative n)
    else x.float.map .float
  else x.float.map .float

end Numeral

end RegistryLogin.Json
