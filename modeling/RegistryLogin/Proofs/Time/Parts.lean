import RegistryLogin.Login.IdentityToken
import RegistryLogin.Proofs.Json.Records
import Mathlib.Tactic.Lemma
import Mathlib.Tactic.SplitIfs

/-! Instants and the nine integers that stand for them. -/

namespace RegistryLogin

namespace Calendar

variable {day year next : Int}

lemma firstDay_le (h : year ≤ next) : firstDay year ≤ firstDay next := by
  rcases Int.lt_or_eq_of_le h with before | rfl
  · unfold firstDay
    omega
  · exact Int.le_refl _

lemma le_yearOf_iff : year ≤ yearOf day ↔ firstDay year ≤ day := by
  obtain ⟨starts, ends⟩ := yearOf_bounds day
  constructor
  · intro h
    have := firstDay_le h
    omega
  · intro h
    refine Int.not_lt.mp fun before => ?_
    have := firstDay_le (show yearOf day + 1 ≤ year from before)
    omega

lemma yearOf_range (least : firstDay year ≤ day) (most : day < firstDay next) :
    year ≤ yearOf day ∧ yearOf day < next :=
  ⟨le_yearOf_iff.mpr least, Int.not_le.mp (mt le_yearOf_iff.mp (Int.not_le.mpr most))⟩

lemma ordinalOf_range (day : Int) : 1 ≤ ordinalOf day ∧ ordinalOf day ≤ daysIn (yearOf day) := by
  obtain ⟨starts, ends⟩ := yearOf_bounds day
  rw [firstDay_succ] at ends
  unfold ordinalOf
  omega

lemma dayOf_parts (day : Int) : dayOf (yearOf day) (ordinalOf day) = day := by
  unfold dayOf ordinalOf
  omega

end Calendar

namespace UtcOffset

variable {o : UtcOffset} {sign : Int} {n : Nat}

lemma parts_eq (signed : sign = 1 ∨ sign = -1) (h : o.seconds = sign * n) :
    o.hourPart = sign * (n / 3600 : Nat) ∧ o.minutePart = sign * (n / 60 % 60 : Nat) ∧
      o.secondPart = sign * (n % 60 : Nat) := by
  unfold hourPart minutePart secondPart
  rw [h]
  rcases signed with rfl | rfl
  · simp only [Int.one_mul]
    exact ⟨rfl, rfl, rfl⟩
  · simp only [Int.neg_one_mul, Int.neg_tdiv, Int.neg_tmod, Int.neg_inj]
    exact ⟨rfl, rfl, rfl⟩

lemma exists_sign (o : UtcOffset) : ∃ sign n, (sign = 1 ∨ sign = -1) ∧ o.seconds = sign * (n : Nat) := by
  obtain ⟨n, positive | negative⟩ := Int.eq_nat_or_neg o.seconds
  · exact ⟨1, n, .inl rfl, by omega⟩
  · exact ⟨-1, n, .inr rfl, by omega⟩

lemma parts_range (o : UtcOffset) : (-25 ≤ o.hourPart ∧ o.hourPart ≤ 25) ∧
    (-59 ≤ o.minutePart ∧ o.minutePart ≤ 59) ∧ -59 ≤ o.secondPart ∧ o.secondPart ≤ 59 := by
  obtain ⟨sign, n, signed, h⟩ := o.exists_sign
  obtain ⟨hours, minutes, seconds⟩ := parts_eq signed h
  have := o.lower
  have := o.upper
  rw [hours, minutes, seconds]
  rcases signed with rfl | rfl <;> omega

lemma sign_part (signed : sign = 1 ∨ sign = -1) (h : n ≠ 0) : (sign * (n : Int)).sign = sign := by
  have positive : (n : Int).sign = 1 := Int.sign_eq_one_of_pos (by omega)
  rcases signed with rfl | rfl
  · rw [Int.one_mul, positive]
  · rw [Int.neg_one_mul, Int.sign_neg, positive]

lemma natAbs_part (signed : sign = 1 ∨ sign = -1) (n : Nat) : (sign * (n : Int)).natAbs = n := by
  rcases signed with rfl | rfl <;> omega

lemma sign_parts (signed : sign = 1 ∨ sign = -1) (h : o.seconds = sign * n) (some : n ≠ 0) :
    (if o.hourPart ≠ 0 then o.hourPart.sign
      else if o.minutePart ≠ 0 then o.minutePart.sign else o.secondPart.sign) = sign := by
  obtain ⟨hours, minutes, seconds⟩ := parts_eq signed h
  have part (k : Nat) : sign * (k : Int) = 0 ↔ k = 0 := by
    rcases signed with rfl | rfl <;> omega
  rw [hours, minutes, seconds]
  split_ifs with hour minute
  · exact sign_part signed (mt (part _).mpr hour)
  · exact sign_part signed (mt (part _).mpr minute)
  · rw [Decidable.not_not, part] at hour minute
    exact sign_part signed (by omega)

lemma ofParts?_parts (o : UtcOffset) : ofParts? o.hourPart o.minutePart o.secondPart = some o := by
  obtain ⟨sign, n, signed, h⟩ := o.exists_sign
  obtain ⟨hours, minutes, seconds⟩ := parts_eq signed h
  have size : o.hourPart.natAbs * 3600 + o.minutePart.natAbs * 60 + o.secondPart.natAbs = n := by
    rw [hours, minutes, seconds, natAbs_part signed, natAbs_part signed, natAbs_part signed]
    omega
  have total : (if o.hourPart ≠ 0 then o.hourPart.sign
      else if o.minutePart ≠ 0 then o.minutePart.sign else o.secondPart.sign) * (n : Int) =
      o.seconds := by
    by_cases some : n = 0
    · rw [h, some]
      simp
    · rw [sign_parts signed h some, h]
  rw [← size] at total
  have found : ofParts? o.hourPart o.minutePart o.secondPart = ofSeconds? o.seconds := by
    rw [← total]
    rfl
  rw [found, ofSeconds?, dif_pos ⟨o.lower, o.upper⟩]

end UtcOffset

namespace Instant

lemma ofTicks?_eq_some_iff {ticks : Int} {offset : UtcOffset} {i : Instant} :
    ofTicks? ticks offset = some i ↔ i.ticks = ticks ∧ i.offset = offset := by
  unfold ofTicks?
  split
  · rw [Option.some.injEq]
    constructor
    · rintro rfl
      exact ⟨rfl, rfl⟩
    · rintro ⟨rfl, rfl⟩
      rfl
  · rename_i beyond
    constructor
    · rintro ⟨⟩
    · rintro ⟨rfl, rfl⟩
      exact absurd ⟨i.lower, i.upper⟩ beyond

lemma localDay_range (i : Instant) : Calendar.firstDay (-9999) ≤ i.localDay ∧
    i.localDay < Calendar.firstDay 10000 := by
  have := i.lower
  have := i.upper
  simp only [localDay, localSeconds, unixSeconds, Calendar.epoch, Calendar.firstDay]
  omega

lemma ofLocal?_parts (i : Instant) :
    ofLocal? i.year i.ordinal i.hour i.minute i.second i.nanosecond i.offset = some i := by
  have day : Calendar.dayOf i.year i.ordinal = i.localSeconds / 86400 := Calendar.dayOf_parts i.localDay
  have ticks : ((i.localSeconds / 86400 - Calendar.epoch) * 86400 + i.hour * 3600 + i.minute * 60 +
      i.second - i.offset.seconds) * 1000000000 + i.nanosecond = i.ticks := by
    simp only [hour, minute, second, nanosecond, localSeconds, unixSeconds]
    omega
  refine ofTicks?_eq_some_iff.mpr ⟨?_, rfl⟩
  rw [day, ticks]

structure InRange (year ordinal hour minute second nanosecond offsetHours offsetMinutes
    offsetSeconds : Int) : Prop where
  years : -9999 ≤ year ∧ year ≤ 9999
  days : 1 ≤ ordinal ∧ ordinal ≤ Calendar.daysIn year
  hours : 0 ≤ hour ∧ hour ≤ 23
  minutes : 0 ≤ minute ∧ minute ≤ 59
  seconds : 0 ≤ second ∧ second ≤ 59
  nanoseconds : 0 ≤ nanosecond ∧ nanosecond ≤ 999999999
  offsetHours : -25 ≤ offsetHours ∧ offsetHours ≤ 25
  offsetMinutes : -59 ≤ offsetMinutes ∧ offsetMinutes ≤ 59
  offsetSeconds : -59 ≤ offsetSeconds ∧ offsetSeconds ≤ 59

theorem parts_inRange (i : Instant) : InRange i.year i.ordinal i.hour i.minute i.second i.nanosecond
    i.offset.hourPart i.offset.minutePart i.offset.secondPart where
  years := by
    obtain ⟨least, most⟩ := i.localDay_range
    have := Calendar.yearOf_range least most
    unfold year
    omega
  days := Calendar.ordinalOf_range i.localDay
  hours := by
    unfold hour
    omega
  minutes := by
    unfold minute
    omega
  seconds := by
    unfold second
    omega
  nanoseconds := by
    unfold nanosecond
    omega
  offsetHours := i.offset.parts_range.1
  offsetMinutes := i.offset.parts_range.2.1
  offsetSeconds := i.offset.parts_range.2.2

lemma inRange_eq_ok_iff {name : String} {least greatest n : Int} {u : Unit} :
    inRange name least greatest n = .ok u ↔ least ≤ n ∧ n ≤ greatest := by
  rw [inRange]
  split
  · rename_i fits
    simp [fits]
  · rename_i misfit
    simp [misfit, Json.Misfit.fail]

variable {year ordinal hour minute second nanosecond offsetHours offsetMinutes offsetSeconds : Int}

theorem ofParts_eq_ok_iff {i : Instant} :
    ofParts year ordinal hour minute second nanosecond offsetHours offsetMinutes offsetSeconds = .ok i ↔
      InRange year ordinal hour minute second nanosecond offsetHours offsetMinutes offsetSeconds ∧
        ∃ offset, UtcOffset.ofParts? offsetHours offsetMinutes offsetSeconds = some offset ∧
          ofLocal? year ordinal hour minute second nanosecond offset = some i := by
  rw [← Option.bind_eq_some_iff]
  simp only [ofParts, Json.then_eq_ok_iff, inRange_eq_ok_iff]
  constructor
  · rintro ⟨h₁, h₂, h₃, h₄, h₅, h₆, h₇, h₈, h₉, found⟩
    refine ⟨⟨h₁, h₂, h₃, h₄, h₅, h₆, h₇, h₈, h₉⟩, ?_⟩
    split at found
    · rename_i j sum
      obtain rfl := Except.ok.inj found
      exact sum
    · cases found
  · rintro ⟨⟨h₁, h₂, h₃, h₄, h₅, h₆, h₇, h₈, h₉⟩, found⟩
    refine ⟨h₁, h₂, h₃, h₄, h₅, h₆, h₇, h₈, h₉, ?_⟩
    rw [found]

theorem ofParts_parts (i : Instant) : ofParts i.year i.ordinal i.hour i.minute i.second i.nanosecond
    i.offset.hourPart i.offset.minutePart i.offset.secondPart = .ok i :=
  ofParts_eq_ok_iff.mpr ⟨i.parts_inRange, i.offset, i.offset.ofParts?_parts, i.ofLocal?_parts⟩

-- the end of a leap year before year zero, at the westernmost offset
example : ofParts (-4) 366 23 59 59 999999999 (-25) (-59) (-59) =
    .ok ⟨-62261733601000000001, ⟨-93599, by decide, by decide⟩, by decide, by decide⟩ := by rfl

end Instant

end RegistryLogin
