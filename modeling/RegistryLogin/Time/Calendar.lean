/-! The proleptic Gregorian calendar over all integer years. -/

namespace RegistryLogin.Calendar

def isLeap (year : Int) : Bool := year % 4 = 0 ∧ (year % 100 ≠ 0 ∨ year % 400 = 0)

def daysIn (year : Int) : Int := if isLeap year then 366 else 365

def firstDay (year : Int) : Int :=
  365 * year + ((year - 1) / 4 - (year - 1) / 100 + (year - 1) / 400 + 1)

def yearOf (day : Int) : Int :=
  let guess := day * 400 / 146097
  if day < firstDay guess then guess - 1
  else if firstDay (guess + 1) ≤ day then guess + 1
  else guess

def ordinalOf (day : Int) : Int := day - firstDay (yearOf day) + 1

def dayOf (year ordinal : Int) : Int := firstDay year + ordinal - 1

theorem firstDay_succ (year : Int) : firstDay (year + 1) = firstDay year + daysIn year := by
  unfold firstDay daysIn isLeap
  split <;> simp_all <;> omega

theorem firstDay_near (year : Int) :
    -700 ≤ 146097 * year - 400 * firstDay year ∧ 146097 * year - 400 * firstDay year ≤ 400 := by
  have h₁ : (year - 1) / 4 = 100 * ((year - 1) / 400) + (year - 1) % 400 / 4 := by omega
  have h₂ : (year - 1) / 100 = 4 * ((year - 1) / 400) + (year - 1) % 400 / 100 := by omega
  have h₃ : year = 400 * ((year - 1) / 400) + (year - 1) % 400 + 1 := by omega
  unfold firstDay
  rw [h₁, h₂]
  generalize (year - 1) / 400 = k at *
  have h₄ : 0 ≤ (year - 1) % 400 ∧ (year - 1) % 400 < 400 := by omega
  generalize (year - 1) % 400 = r at *
  omega

theorem yearOf_bounds (day : Int) :
    firstDay (yearOf day) ≤ day ∧ day < firstDay (yearOf day + 1) := by
  have guess : 146097 * (day * 400 / 146097) ≤ day * 400 ∧
      day * 400 < 146097 * (day * 400 / 146097) + 146097 := by omega
  unfold yearOf
  simp only
  generalize day * 400 / 146097 = g at *
  have h₀ := firstDay_near g
  have h₁ := firstDay_near (g - 1)
  have h₂ := firstDay_near (g + 1)
  have h₃ := firstDay_near (g + 1 + 1)
  have h₄ : g - 1 + 1 = g := by omega
  split
  · rw [h₄]; omega
  · split <;> omega

def monthLengths (year : Int) : List Int :=
  [31, if isLeap year then 29 else 28, 31, 30, 31, 30, 31, 31, 30, 31, 30, 31]

def monthAndDay (month : Int) : List Int → Int → Int × Int
  | [], n => (month, n)
  | length :: rest, n =>
    if n ≤ length then (month, n) else monthAndDay (month + 1) rest (n - length)

def ordinal? (year : Int) (month day : Nat) : Option Int :=
  match (monthLengths year)[month - 1]? with
  | some length =>
    if 1 ≤ month ∧ 1 ≤ day ∧ (day : Int) ≤ length then
      some (((monthLengths year).take (month - 1)).foldl (· + ·) 0 + day)
    else none
  | none => none

def epoch : Int := 719528

end RegistryLogin.Calendar
