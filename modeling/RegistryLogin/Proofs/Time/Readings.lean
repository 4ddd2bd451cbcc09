import RegistryLogin.Proofs.Time.Parts
import RegistryLogin.Time.Clock
import Mathlib.Data.List.Induction

namespace RegistryLogin

namespace Instant

variable {ticks : Int} {offset : UtcOffset}

def localYear (ticks : Int) (offset : UtcOffset) : Int :=
  Calendar.yearOf ((ticks / 1000000000 + offset.seconds + Calendar.epoch * 86400) / 86400)

def InYears (ticks : Int) (offset : UtcOffset) : Prop :=
  -9999 ≤ localYear ticks offset ∧ localYear ticks offset ≤ 9999

instance : Decidable (InYears ticks offset) :=
  inferInstanceAs (Decidable (-9999 ≤ localYear ticks offset ∧ localYear ticks offset ≤ 9999))

lemma inYears_iff : InYears ticks offset ↔
    -377705116800000000000 ≤ ticks + offset.seconds * 1000000000 ∧
      ticks + offset.seconds * 1000000000 < 253402300800000000000 := by
  have after : localYear ticks offset ≤ 9999 ↔ ¬ 10000 ≤ localYear ticks offset := by omega
  rw [InYears, after, localYear, Calendar.le_yearOf_iff, Calendar.le_yearOf_iff,
    show Calendar.firstDay (-9999) = -3652059 by decide, show Calendar.firstDay 10000 = 3652425 by decide,
    Calendar.epoch]
  omega

lemma ofTicks?_eq_none_iff : ofTicks? ticks offset = none ↔ ¬ InYears ticks offset := by
  rw [inYears_iff, ofTicks?]
  split
  · rename_i fits
    simp [fits]
  · rename_i beyond
    simp [beyond]

lemma exists_ofTicks? (h : InYears ticks offset) :
    ∃ i, ofTicks? ticks offset = some i ∧ i.ticks = ticks ∧ i.offset = offset := by
  obtain ⟨i, found⟩ := Option.ne_none_iff_exists'.mp fun none => ofTicks?_eq_none_iff.mp none h
  exact ⟨i, found, ofTicks?_eq_some_iff.mp found⟩

lemma eq_of_ticks {i j : Instant} (ticks : i.ticks = j.ticks) (offset : i.offset = j.offset) : i = j := by
  cases i
  cases j
  cases ticks
  cases offset
  rfl

end Instant

def Duration.total : List Duration → Int
  | [] => 0
  | d :: ds => d.ticks + total ds

lemma Duration.total_snoc (ds : List Duration) (d : Duration) : total (ds ++ [d]) = total ds + d.ticks := by
  induction ds with
  | nil => exact Int.add_comm d.ticks 0
  | cons e ds ih => rw [List.cons_append, total, total, ih, Int.add_assoc]

namespace ClockMove

open Instant Duration

variable {start base reading : Instant} {moves before : List ClockMove} {ds : List Duration} {d : Duration}

inductive Since (start : Instant) : List ClockMove → Instant → List Duration → Prop
  | started (ds : List Duration) : Since start (ds.map .advance) start ds
  | set (before : List ClockMove) (i : Instant) (ds : List Duration) :
    Since start (before ++ .set i :: ds.map .advance) i ds

def taken (base : Instant) (ds : List Duration) : List Duration :=
  ds.foldl (fun earlier d =>
    if InYears (base.ticks + total (earlier ++ [d])) base.offset then earlier ++ [d] else earlier) []

lemma taken_snoc (base : Instant) (ds : List Duration) (d : Duration) : taken base (ds ++ [d]) =
    if InYears (base.ticks + total (taken base ds ++ [d])) base.offset then taken base ds ++ [d]
    else taken base ds := by
  rw [taken, List.foldl_append]
  rfl

lemma exists_since (start : Instant) (moves : List ClockMove) : ∃ base ds, Since start moves base ds := by
  induction moves using List.reverseRecOn with
  | nil => exact ⟨start, [], .started []⟩
  | append_singleton moves move ih =>
    obtain ⟨base, ds, since⟩ := ih
    cases move with
    | set i => exact ⟨i, [], .set moves i []⟩
    | advance d =>
      refine ⟨base, ds ++ [d], ?_⟩
      cases since with
      | started =>
        have all : ds.map advance ++ [.advance d] = (ds ++ [d]).map advance := by simp
        exact all ▸ .started (ds ++ [d])
      | set before =>
        have all : (before ++ .set base :: ds.map advance) ++ [.advance d] =
            before ++ .set base :: (ds ++ [d]).map advance := by simp
        exact all ▸ .set before base (ds ++ [d])

lemma nextAll_append (start : Instant) (moves later : List ClockMove) :
    nextAll start (moves ++ later) = nextAll (nextAll start moves) later := List.foldl_append

lemma nextAll_cons (start : Instant) (move : ClockMove) (later : List ClockMove) :
    nextAll start (move :: later) = nextAll (move.next start) later := rfl

lemma nextAll_since (h : Since start moves base ds) : nextAll start moves = nextAll base (ds.map .advance) := by
  cases h with
  | started => rfl
  | set before => rw [nextAll_append, nextAll_cons]; rfl

lemma next?_advance_eq_none_iff : (advance d).next? reading = none ↔
    ¬ InYears (reading.ticks + d.ticks) reading.offset := ofTicks?_eq_none_iff

lemma next_of_failed (h : (advance d).next? reading = none) : (advance d).next reading = reading := by
  rw [next, h, Option.getD_none]

lemma next_of_taken (h : InYears (reading.ticks + d.ticks) reading.offset) :
    ((advance d).next reading).ticks = reading.ticks + d.ticks ∧
      ((advance d).next reading).offset = reading.offset := by
  obtain ⟨i, found, sum⟩ := exists_ofTicks? h
  have moved : (advance d).next? reading = some i := found
  rwa [next, moved, Option.getD_some]

lemma nextAll_advances (base : Instant) (ds : List Duration) :
    (nextAll base (ds.map .advance)).ticks = base.ticks + total (taken base ds) ∧
      (nextAll base (ds.map .advance)).offset = base.offset := by
  induction ds using List.reverseRecOn with
  | nil => exact ⟨(Int.add_zero _).symm, rfl⟩
  | append_singleton ds d ih =>
    obtain ⟨ticks, offset⟩ := ih
    rw [List.map_append, nextAll_append, List.map_singleton, nextAll_cons, taken_snoc, total_snoc,
      ← Int.add_assoc, ← ticks, ← offset]
    split
    · rename_i fits
      obtain ⟨sum, same⟩ := next_of_taken fits
      rw [total_snoc, ← Int.add_assoc, offset, ← ticks]
      exact ⟨sum, same.trans offset⟩
    · rename_i leaves
      have failed := next_of_failed (next?_advance_eq_none_iff.mpr leaves)
      rw [failed, offset, ← ticks]
      exact ⟨rfl, offset⟩

lemma nextAll_failed (h : (advance d).next? (nextAll start moves) = none) (later : List ClockMove) :
    nextAll start (moves ++ .advance d :: later) = nextAll start (moves ++ later) := by
  rw [nextAll_append, nextAll_append, nextAll_cons, next_of_failed h]

lemma nextAll_sum {a b sum : Duration} (h : sum.ticks = a.ticks + b.ticks)
    (near : InYears (reading.ticks + a.ticks) reading.offset)
    (far : InYears (reading.ticks + a.ticks + b.ticks) reading.offset) :
    nextAll reading [.advance a, .advance b] = nextAll reading [.advance sum] := by
  obtain ⟨first, same⟩ := next_of_taken near
  have second : InYears (((advance a).next reading).ticks + b.ticks) ((advance a).next reading).offset := by
    rwa [first, same]
  have direct : InYears (reading.ticks + sum.ticks) reading.offset := by
    rwa [h, ← Int.add_assoc]
  obtain ⟨last, shown⟩ := next_of_taken second
  obtain ⟨once, offset⟩ := next_of_taken direct
  change (advance b).next ((advance a).next reading) = (advance sum).next reading
  apply eq_of_ticks
  · rw [last, first, once, h, Int.add_assoc]
  · rw [shown, same, offset]

/-- After any moves the clock reads the instant it was last set to, and all the durations since that it
could take, at the offset of that instant. It takes those that stay in the years that there are; any other
fails and leaves no trace. -/
theorem reading_exact (start : Instant) (moves : List ClockMove) :
    (∃ base ds, Since start moves base ds) ∧
    (∀ base ds, Since start moves base ds →
      (nextAll start moves).ticks = base.ticks + total (taken base ds) ∧
        (nextAll start moves).offset = base.offset) ∧
    (∀ d, (advance d).next? (nextAll start moves) = none ↔
      ¬ InYears ((nextAll start moves).ticks + d.ticks) (nextAll start moves).offset) ∧
    (∀ d later, (advance d).next? (nextAll start moves) = none →
      nextAll start (moves ++ .advance d :: later) = nextAll start (moves ++ later)) ∧
    (∀ a b sum : Duration, sum.ticks = a.ticks + b.ticks →
      InYears ((nextAll start moves).ticks + a.ticks) (nextAll start moves).offset →
      InYears ((nextAll start moves).ticks + a.ticks + b.ticks) (nextAll start moves).offset →
      nextAll start (moves ++ [.advance a, .advance b]) = nextAll start (moves ++ [.advance sum])) := by
  refine ⟨exists_since start moves, ?_, fun d => next?_advance_eq_none_iff,
    fun d later failed => nextAll_failed failed later, ?_⟩
  · intro base ds since
    rw [nextAll_since since]
    exact nextAll_advances base ds
  · intro a b sum h near far
    rw [nextAll_append, nextAll_append, nextAll_sum h near far]

def westernEve : Instant := ⟨253402300799000000000, ⟨-93599, by decide, by decide⟩, by decide, by decide⟩

theorem reading_exact_lastNanosecond :
    let most : Duration := ⟨93599999999999, by decide, by decide⟩
    let one : Duration := ⟨1, by decide, by decide⟩
    let back : Duration := ⟨-1000000001, by decide, by decide⟩
    let forth : Duration := ⟨1000000000, by decide, by decide⟩
    let sum : Duration := ⟨-1, by decide, by decide⟩
    let moves : List ClockMove := [.advance .longest, .set westernEve, .advance most]
    (nextAll westernEve moves).ticks = 253402394398999999999 ∧
      (advance one).next? (nextAll westernEve moves) = none ∧
      nextAll westernEve (moves ++ [.advance one, .advance back]) =
        nextAll westernEve (moves ++ [.advance back]) ∧
      nextAll westernEve (moves ++ [.advance back, .advance forth]) =
        nextAll westernEve (moves ++ [.advance sum]) := by
  intro most one back forth sum moves
  obtain ⟨-, reads, fails, traceless, sums⟩ := reading_exact westernEve moves
  have failed := (fails one).mpr (by decide)
  exact ⟨(reads westernEve [most] (.set [.advance .longest] westernEve [most])).1, failed,
    traceless one [.advance back] failed, sums back forth sum (by decide) (by decide) (by decide)⟩

end ClockMove

end RegistryLogin
