import RegistryLogin.Time.Calendar
import RegistryLogin.Time.Duration

/-! Instants: a point in time together with the offset from UTC it is shown at. -/

namespace RegistryLogin

structure UtcOffset where
  seconds : Int
  lower : -93599 ≤ seconds := by omega
  upper : seconds ≤ 93599 := by omega
deriving DecidableEq

namespace UtcOffset

def utc : UtcOffset := ⟨0, by decide, by decide⟩

def ofSeconds? (seconds : Int) : Option UtcOffset :=
  if h : -93599 ≤ seconds ∧ seconds ≤ 93599 then some ⟨seconds, h.1, h.2⟩ else none

def hourPart (o : UtcOffset) : Int := o.seconds.tdiv 3600
def minutePart (o : UtcOffset) : Int := (o.seconds.tdiv 60).tmod 60
def secondPart (o : UtcOffset) : Int := o.seconds.tmod 60

def ofParts? (hours minutes seconds : Int) : Option UtcOffset :=
  let sign := if hours ≠ 0 then hours.sign else if minutes ≠ 0 then minutes.sign else seconds.sign
  ofSeconds? (sign * (hours.natAbs * 3600 + minutes.natAbs * 60 + seconds.natAbs))

end UtcOffset

structure Instant where
  ticks : Int
  offset : UtcOffset
  lower : -377705116800000000000 ≤ ticks + offset.seconds * 1000000000
  upper : ticks + offset.seconds * 1000000000 < 253402300800000000000
deriving DecidableEq

namespace Instant

instance : LE Instant := ⟨fun a b => a.ticks ≤ b.ticks⟩
instance : LT Instant := ⟨fun a b => a.ticks < b.ticks⟩
instance (a b : Instant) : Decidable (a ≤ b) := inferInstanceAs (Decidable (a.ticks ≤ b.ticks))
instance (a b : Instant) : Decidable (a < b) := inferInstanceAs (Decidable (a.ticks < b.ticks))

def same (a b : Instant) : Bool := a.ticks == b.ticks

def ofTicks? (ticks : Int) (offset : UtcOffset) : Option Instant :=
  if h : -377705116800000000000 ≤ ticks + offset.seconds * 1000000000 ∧
      ticks + offset.seconds * 1000000000 < 253402300800000000000 then
    some ⟨ticks, offset, h.1, h.2⟩
  else none

def add? (i : Instant) (d : Duration) : Option Instant := ofTicks? (i.ticks + d.ticks) i.offset

def earlier (a b : Instant) : Instant := if b < a then b else a

def unixSeconds (i : Instant) : Int := i.ticks / 1000000000

def nanosecond (i : Instant) : Int := i.ticks % 1000000000

def localSeconds (i : Instant) : Int :=
  i.unixSeconds + i.offset.seconds + Calendar.epoch * 86400

def localDay (i : Instant) : Int := i.localSeconds / 86400
def year (i : Instant) : Int := Calendar.yearOf i.localDay
def ordinal (i : Instant) : Int := Calendar.ordinalOf i.localDay
def hour (i : Instant) : Int := i.localSeconds % 86400 / 3600
def minute (i : Instant) : Int := i.localSeconds % 3600 / 60
def second (i : Instant) : Int := i.localSeconds % 60

def monthAndDay (i : Instant) : Int × Int :=
  Calendar.monthAndDay 1 (Calendar.monthLengths i.year) i.ordinal

def ofLocal? (year ordinal hour minute second nanosecond : Int) (offset : UtcOffset) :
    Option Instant :=
  let seconds := (Calendar.dayOf year ordinal - Calendar.epoch) * 86400 +
    hour * 3600 + minute * 60 + second - offset.seconds
  ofTicks? (seconds * 1000000000 + nanosecond) offset

def padded (width : Nat) (n : Int) : String :=
  let digits := Nat.toDigits 10 n.natAbs
  (if n < 0 then "-" else "") ++
    String.ofList (List.replicate (width - digits.length) '0' ++ digits)

def fractionText (nanosecond : Int) : String :=
  let digits := (padded 9 nanosecond).toList
  match (digits.reverse.dropWhile (· = '0')).reverse with
  | [] => "0"
  | shown => String.ofList shown

def offsetText (o : UtcOffset) : String :=
  (if o.seconds < 0 then "-" else "+") ++ padded 2 o.hourPart.natAbs ++ ":" ++
    padded 2 o.minutePart.natAbs ++ ":" ++ padded 2 o.secondPart.natAbs

def toText (i : Instant) : String :=
  let (month, day) := i.monthAndDay
  padded 4 i.year ++ "-" ++ padded 2 month ++ "-" ++ padded 2 day ++ " " ++
    padded 1 i.hour ++ ":" ++ padded 2 i.minute ++ ":" ++ padded 2 i.second ++ "." ++
    fractionText i.nanosecond ++ " " ++ offsetText i.offset

theorem ticks_of_add? {i j : Instant} {d : Duration} (h : i.add? d = some j) :
    j.ticks = i.ticks + d.ticks ∧ j.offset = i.offset := by
  unfold add? ofTicks? at h
  split at h <;> simp at h
  subst h
  exact ⟨rfl, rfl⟩

end Instant

end RegistryLogin
