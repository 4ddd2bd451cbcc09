import RegistryLogin.Time.Instant

namespace RegistryLogin

inductive ClockMove
  | set (instant : Instant)
  | advance (by_ : Duration)

namespace ClockMove

def next? (reading : Instant) : ClockMove → Option Instant
  | .set instant => some instant
  | .advance d => reading.add? d

/-- A failed move leaves the reading as it was. -/
def next (reading : Instant) (move : ClockMove) : Instant := (move.next? reading).getD reading

def nextAll (reading : Instant) (moves : List ClockMove) : Instant := moves.foldl next reading

end ClockMove

end RegistryLogin
