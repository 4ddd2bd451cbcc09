/-! Binary floating point numbers with 53 bits, in exact integer arithmetic. -/

namespace RegistryLogin

structure Binary64 where
  negative : Bool
  mantissa : Nat
  exponent : Int
deriving DecidableEq, Repr

namespace Binary64

def least : Int := -1074
def greatest : Int := 971

def zero : Binary64 := ⟨false, 0, least⟩

def scaled (mantissa : Nat) (exponent : Int) : Nat × Nat :=
  if 0 ≤ exponent then (mantissa * Nat.pow 2 exponent.toNat, 1)
  else (mantissa, Nat.pow 2 (-exponent).toNat)

def roundQuotient (num den : Nat) : Nat :=
  let q := num / den
  let r := num % den
  if 2 * r < den then q else if den < 2 * r then q + 1 else q + q % 2

def ofQuotient? (num den : Nat) : Option Binary64 :=
  if num = 0 then some zero
  else
    let rough := (num.log2 : Int) - den.log2 - 53
    let at_ (e : Int) : Nat × Nat :=
      if 0 ≤ e then (num, den * Nat.pow 2 e.toNat) else (num * Nat.pow 2 (-e).toNat, den)
    let fits (e : Int) : Bool := (at_ e).1 < (at_ e).2 * Nat.pow 2 53
    let e := max least (if fits rough then rough else rough + 1)
    let m := roundQuotient (at_ e).1 (at_ e).2
    let (m, e) := if m = Nat.pow 2 53 then (Nat.pow 2 52, e + 1) else (m, e)
    if e ≤ greatest then some ⟨false, m, e⟩ else none

def ofNat? (n : Nat) : Option Binary64 := ofQuotient? n 1

def quotient (x : Binary64) : Nat × Nat := scaled x.mantissa x.exponent

def mul? (x y : Binary64) : Option Binary64 :=
  ofQuotient? (x.quotient.1 * y.quotient.1) (x.quotient.2 * y.quotient.2)

def div? (x y : Binary64) : Option Binary64 :=
  ofQuotient? (x.quotient.1 * y.quotient.2) (x.quotient.2 * y.quotient.1)

def add? (x y : Binary64) : Option Binary64 :=
  ofQuotient? (x.quotient.1 * y.quotient.2 + y.quotient.1 * x.quotient.2)
    (x.quotient.2 * y.quotient.2)

def powerOfTen (n : Nat) : Binary64 := (ofNat? (Nat.pow 10 n)).getD zero

def shrink (x : Binary64) : Nat → Option Binary64
  | 0 => some x
  | steps + 1 =>
    if x.mantissa = 0 then some x
    else match x.div? (powerOfTen 308) with
      | some y => shrink y steps
      | none => none

def timesPowerOfTen? (x : Binary64) (exponent : Int) : Option Binary64 :=
  if x.mantissa = 0 then some x
  else if 308 < exponent then none
  else if 0 ≤ exponent then x.mul? (powerOfTen exponent.toNat)
  else (shrink x ((-exponent).toNat / 308)).bind fun y =>
    y.div? (powerOfTen ((-exponent).toNat % 308))

end Binary64

end RegistryLogin
