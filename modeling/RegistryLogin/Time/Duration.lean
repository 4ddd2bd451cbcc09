namespace RegistryLogin

structure Duration where
  ticks : Int
  lower : -9223372036854775808999999999 ≤ ticks := by omega
  upper : ticks ≤ 9223372036854775807999999999 := by omega
deriving DecidableEq

namespace Duration

def ofTicks? (ticks : Int) : Option Duration :=
  if h : -9223372036854775808999999999 ≤ ticks ∧ ticks ≤ 9223372036854775807999999999 then
    some ⟨ticks, h.1, h.2⟩
  else none

def ofSeconds? (seconds : Int) : Option Duration :=
  if -9223372036854775808 ≤ seconds ∧ seconds ≤ 9223372036854775807 then
    ofTicks? (seconds * 1000000000)
  else none

def zero : Duration := ⟨0, by decide, by decide⟩
def longest : Duration := ⟨9223372036854775807999999999, by decide, by decide⟩
def shortest : Duration := ⟨-9223372036854775808999999999, by decide, by decide⟩

def wholeSeconds (d : Duration) : Int := d.ticks.tdiv 1000000000

def nanoseconds (d : Duration) : Int := d.ticks.tmod 1000000000

def isPositive (d : Duration) : Bool := 0 < d.ticks

def clamped (d : Duration) : Duration := if d.ticks < 0 then zero else d

def toText (d : Duration) : String :=
  "SignedDuration \x7b seconds: " ++ toString d.wholeSeconds ++ ", nanoseconds: " ++
    toString d.nanoseconds ++ " \x7d"

theorem clamped_ticks (d : Duration) : d.clamped.ticks = max d.ticks 0 := by
  unfold clamped
  split
  · simp only [zero]; omega
  · omega

end Duration

end RegistryLogin
