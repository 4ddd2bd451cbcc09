import RegistryLogin.Time.Instant

/-! Dates as mail headers write them. -/

namespace RegistryLogin.MailDate

def afterComment (depth : Nat) : List Char → Option (List Char)
  | [] => none
  | '(' :: cs => afterComment (depth + 1) cs
  | ')' :: cs => if depth ≤ 1 then some cs else afterComment (depth - 1) cs
  | '\\' :: _ :: cs => afterComment depth cs
  | c :: cs =>
    if c = '\t' ∨ (' ' ≤ c ∧ c ≤ '~' ∧ c ≠ '\\') then afterComment depth cs else none

theorem length_afterComment {depth : Nat} {cs rest : List Char}
    (h : afterComment depth cs = some rest) : rest.length ≤ cs.length := by
  fun_induction afterComment depth cs with
  | case1 => simp at h
  | case2 _ _ ih => simpa using Nat.le_succ_of_le (ih h)
  | case3 => simp at h; simp [h]
  | case4 _ _ _ ih => simpa using Nat.le_succ_of_le (ih h)
  | case5 _ _ _ ih => have := ih h; simp; omega
  | case6 _ _ _ _ _ _ _ ih => simpa using Nat.le_succ_of_le (ih h)
  | case7 => simp at h

def skipFolding : List Char → List Char
  | [] => []
  | c :: cs =>
    if c = ' ' ∨ c = '\t' then skipFolding cs
    else if c = '(' then
      match _h : afterComment 1 cs with
      | some rest => skipFolding rest
      | none => c :: cs
    else c :: cs
termination_by cs => cs.length
decreasing_by
  · simp
  · have := length_afterComment ‹afterComment 1 cs = some _›; simp; omega

def folding (cs : List Char) : Option (List Char) :=
  let rest := skipFolding cs
  if rest.length < cs.length then some rest else none

def blanks (cs : List Char) : Option (List Char) :=
  let rest := cs.dropWhile fun c => c == ' ' || c == '\t'
  if rest.length < cs.length then some rest else none

def digitsValue (cs : List Char) : Nat := cs.foldl (fun n c => 10 * n + (c.toNat - 48)) 0

def digits (count : Nat) (cs : List Char) : Option (Nat × List Char) :=
  let front := cs.take count
  if front.length = count ∧ front.all Char.isDigit then some (digitsValue front, cs.drop count)
  else none

def literal (expected : Char) : List Char → Option (List Char)
  | [] => none
  | c :: cs => if c = expected then some cs else none

def name {α : Type} (names : List (String × α)) (cs : List Char) : Option (α × List Char) :=
  names.findSome? fun (text, value) =>
    if (cs.take text.length).map Char.toLower = text.toList then some (value, cs.drop text.length)
    else none

def dayNames : List (String × Unit) :=
  ["mon", "tue", "wed", "thu", "fri", "sat", "sun"].map (·, ())

def monthNames : List (String × Nat) :=
  [("jan", 1), ("feb", 2), ("mar", 3), ("apr", 4), ("may", 5), ("jun", 6), ("jul", 7), ("aug", 8),
    ("sep", 9), ("oct", 10), ("nov", 11), ("dec", 12)]

def zoneNames : List (String × Int) :=
  [("ut", 0), ("gmt", 0), ("est", -5), ("edt", -4), ("cst", -6), ("cdt", -5), ("mst", -7),
    ("mdt", -6), ("pst", -8), ("pdt", -7)]

def letterZone : List Char → Option (List Char)
  | [] => none
  | c :: cs => if c.isAlpha ∧ c.toLower ≠ 'j' then some cs else none

def zone (cs : List Char) : Option (Int × List Char) :=
  match name zoneNames cs with
  | some (hours, rest) => some (hours * 3600, rest)
  | none => match letterZone cs with
    | some rest => some (0, rest)
    | none => do
      let sign ← cs.head?
      guard (sign = '+' ∨ sign = '-')
      let (hours, rest) ← digits 2 cs.tail
      let (minutes, rest) ← digits 2 rest
      guard (hours ≤ 25 ∧ minutes ≤ 59)
      let seconds : Int := if sign = '-' ∧ hours ≠ 0 then -(hours * 3600 + minutes * 60)
        else hours * 3600 + minutes * 60
      some (seconds, rest)

def dayName (cs : List Char) : Option (List Char) :=
  match name dayNames cs with
  | none => some cs
  | some (_, rest) => (literal ',' rest).map skipFolding

def dayOfMonth (cs : List Char) : Option (Nat × List Char) := (digits 2 cs).or (digits 1 cs)

def year (cs : List Char) : Option (Nat × List Char) :=
  match digits 4 cs with
  | some (y, rest) => if 1900 ≤ y then (blanks rest).map (y, ·) else none
  | none => do
    let (y, rest) ← digits 2 cs
    let rest ← folding rest
    some (if y < 50 then y + 2000 else y + 1900, rest)

def colon (cs : List Char) : Option (List Char) := (literal ':' (skipFolding cs)).map skipFolding

def seconds (cs : List Char) : Option (Nat × List Char) := do
  let (s, rest) ← match colon cs with
    | some rest => digits 2 rest
    | none => some (0, cs)
  let rest ← folding rest
  some (s, rest)

def endsMonth (i : Instant) : Bool :=
  i.ticks % 86400000000000 == 86399999999999 &&
    (Calendar.monthAndDay 1 (Calendar.monthLengths (Calendar.yearOf (i.ticks / 86400000000000 + 1 + Calendar.epoch)))
      (Calendar.ordinalOf (i.ticks / 86400000000000 + 1 + Calendar.epoch))).2 == 1

def parse? (cs : List Char) : Option Instant := do
  let cs ← dayName (skipFolding cs)
  let (day, cs) ← dayOfMonth cs
  let cs ← folding cs
  let (month, cs) ← name monthNames cs
  let cs ← folding cs
  let (year, cs) ← year cs
  let (hour, cs) ← digits 2 cs
  let cs ← colon cs
  let (minute, cs) ← digits 2 cs
  let (second, cs) ← seconds cs
  let (offset, cs) ← zone cs
  guard (skipFolding cs = [])
  let ordinal ← Calendar.ordinal? year month day
  guard (hour < 24 ∧ minute < 60 ∧ second ≤ 60)
  let offset ← UtcOffset.ofSeconds? offset
  if second = 60 then
    let instant ← Instant.ofLocal? year ordinal hour minute 59 999999999 offset
    if endsMonth instant then some instant else none
  else Instant.ofLocal? year ordinal hour minute second 0 offset

end RegistryLogin.MailDate
