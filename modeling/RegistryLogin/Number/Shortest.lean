import RegistryLogin.Number.Binary64

/-! The shortest decimal that reads back as a given binary number. -/

namespace RegistryLogin.Shortest

structure Decimal where
  digits : Nat
  exponent : Int

def roundsTo (x : Binary64) (digits : Nat) (exponent : Int) : Bool :=
  let (n, d) : Nat × Nat :=
    if 0 ≤ exponent then (digits * Nat.pow 10 exponent.toNat, 1)
    else (digits, Nat.pow 10 (-exponent).toNat)
  let narrow := x.mantissa = Nat.pow 2 52 ∧ Binary64.least < x.exponent
  let (ln, ld) := if narrow then Binary64.scaled (4 * x.mantissa - 1) (x.exponent - 2)
    else Binary64.scaled (2 * x.mantissa - 1) (x.exponent - 1)
  let (hn, hd) := Binary64.scaled (2 * x.mantissa + 1) (x.exponent - 1)
  if x.mantissa % 2 = 0 then ln * d ≤ n * ld && n * hd ≤ hn * d
  else ln * d < n * ld && n * hd < hn * d

def leading (num den : Nat) : Nat → Int → Int
  | 0, e => e
  | steps + 1, e =>
    let next := e + 1
    let reached := if 0 ≤ next then den * Nat.pow 10 next.toNat ≤ num
      else den ≤ num * Nat.pow 10 (-next).toNat
    if reached then leading num den steps next else e

def onGrid? (x : Binary64) (exponent : Int) : Option Decimal :=
  let (n, d) := x.quotient
  let (n, d) := if 0 ≤ exponent then (n, d * Nat.pow 10 exponent.toNat)
    else (n * Nat.pow 10 (-exponent).toNat, d)
  let below := n / d
  let near := Binary64.roundQuotient n d
  let far := if near = below then below + 1 else below
  if near ≠ 0 ∧ roundsTo x near exponent then some ⟨near, exponent⟩
  else if far ≠ 0 ∧ roundsTo x far exponent then some ⟨far, exponent⟩
  else none

def significant (digits : List Char) : List Char := (digits.reverse.dropWhile (· = '0')).reverse

def search (x : Binary64) : Nat → Int → Decimal
  | 0, exponent => ⟨0, exponent⟩
  | steps + 1, exponent =>
    match onGrid? x exponent with
    | some d => d
    | none => search x steps (exponent - 1)

def decimal (x : Binary64) : Decimal :=
  let (n, d) := x.quotient
  search x 18 (leading n d 640 (-330))

def text (x : Binary64) : String :=
  let sign := if x.negative then "-" else ""
  if x.mantissa = 0 then sign ++ "0.0"
  else
    let d := decimal x
    let all := Nat.toDigits 10 d.digits
    let digits := significant all
    let point : Int := all.length + d.exponent
    sign ++ String.ofList (
      if 0 < point ∧ point ≤ 16 then
        let whole := digits.take point.toNat
        let fraction := digits.drop point.toNat
        whole ++ List.replicate (point.toNat - whole.length) '0' ++
          '.' :: (if fraction.isEmpty then ['0'] else fraction)
      else if -5 < point ∧ point ≤ 0 then
        ['0', '.'] ++ List.replicate (-point).toNat '0' ++ digits
      else
        let e := point - 1
        digits.take 1 ++ (if digits.length = 1 then [] else '.' :: digits.drop 1) ++
          ['e', if e < 0 then '-' else '+'] ++ Nat.toDigits 10 e.natAbs)

end RegistryLogin.Shortest
