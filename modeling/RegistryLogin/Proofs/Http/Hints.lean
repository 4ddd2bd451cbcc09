import RegistryLogin.Proofs.Http.Headers
import RegistryLogin.Proofs.Time.MailDates

namespace RegistryLogin

open Text

namespace RetryAfter

variable {now date : Instant} {cs text : List Char} {n : Nat} {d : Duration} {hint : Option Duration}

inductive Counts : List Char → Nat → Prop
  | plain {digits : List Char} (some : digits ≠ []) (decimal : ∀ c ∈ digits, c.isDigit = true) :
    Counts digits (Nat.ofDigitChars 10 digits 0)
  | signed {digits : List Char} (some : digits ≠ []) (decimal : ∀ c ∈ digits, c.isDigit = true) :
    Counts ('+' :: digits) (Nat.ofDigitChars 10 digits 0)

def Uncounted (text : List Char) : Prop := ∀ n, Counts text n → 4294967296 ≤ n

/-- The hint that the value of a header gives at this time. -/
inductive Hints (now : Instant) (value : Bytes) : Option Duration → Prop
  | seconds {text : List Char} {n : Nat} {d : Duration} (shows : Header.Shows value text) (counts : Counts text n)
    (small : n < 4294967296) (exact : d.ticks = n * 1000000000) : Hints now value (some d)
  | date {text : List Char} {date : Instant} {d : Duration} (shows : Header.Shows value text)
    (uncounted : Uncounted text) (dated : MailDate.parse? text = some date) (future : now < date)
    (exact : d.ticks = date.ticks - now.ticks) : Hints now value (some d)
  | past {text : List Char} (shows : Header.Shows value text) (uncounted : Uncounted text)
    (past : ∀ date, MailDate.parse? text = some date → ¬ now < date) : Hints now value none
  | unshown (h : ∀ text, ¬ Header.Shows value text) : Hints now value none

lemma counts_signed {digits : List Char} : Counts ('+' :: digits) n ↔
    (digits ≠ [] ∧ ∀ c ∈ digits, c.isDigit = true) ∧ Nat.ofDigitChars 10 digits 0 = n := by
  constructor
  · intro h
    cases h with
    | plain some decimal => exact absurd (decimal '+' List.mem_cons_self) (by decide)
    | signed some decimal => exact ⟨⟨some, decimal⟩, rfl⟩
  · rintro ⟨⟨some, decimal⟩, rfl⟩
    exact .signed some decimal

lemma counts_plain (unsigned : ∀ digits, cs ≠ '+' :: digits) : Counts cs n ↔
    (cs ≠ [] ∧ ∀ c ∈ cs, c.isDigit = true) ∧ Nat.ofDigitChars 10 cs 0 = n := by
  constructor
  · intro h
    cases h with
    | plain some decimal => exact ⟨⟨some, decimal⟩, rfl⟩
    | signed => exact absurd rfl (unsigned _)
  · rintro ⟨⟨some, decimal⟩, rfl⟩
    exact .plain some decimal

theorem seconds?_eq_some_iff : seconds? cs = some n ↔ Counts cs n ∧ n < 4294967296 := by
  have value (digits : List Char) : (if digits.isEmpty = true ∨ ¬ digits.all Char.isDigit = true then none
      else if MailDate.digitsValue digits < 4294967296 then some (MailDate.digitsValue digits)
      else none) = some n ↔
        ((digits ≠ [] ∧ ∀ c ∈ digits, c.isDigit = true) ∧ Nat.ofDigitChars 10 digits 0 = n) ∧
          n < 4294967296 := by
    have same : MailDate.digitsValue digits = Nat.ofDigitChars 10 digits 0 := rfl
    rw [same, Option.ite_none_left_eq_some, Option.ite_none_right_eq_some, Option.some.injEq, not_or,
      List.isEmpty_iff, Decidable.not_not, List.all_eq_true]
    constructor
    · rintro ⟨decimal, small, rfl⟩
      exact ⟨⟨decimal, rfl⟩, small⟩
    · rintro ⟨⟨decimal, rfl⟩, small⟩
      exact ⟨decimal, small, rfl⟩
  by_cases signed : ∃ digits, cs = '+' :: digits
  · obtain ⟨digits, rfl⟩ := signed
    rw [counts_signed]
    exact value digits
  · rw [counts_plain (not_exists.mp signed), seconds?]
    · exact value cs
    · exact not_exists.mp signed

variable {value : Bytes}

lemma ticks_ofSeconds? (small : n < 4294967296) :
    ∃ d, Duration.ofSeconds? n = some d ∧ d.ticks = n * 1000000000 := by
  rw [Duration.ofSeconds?, if_pos (by omega), Duration.ofTicks?, dif_pos (by omega)]
  exact ⟨_, rfl, rfl⟩

lemma ticks_until (now date : Instant) :
    ∃ d, Duration.ofTicks? (date.ticks - now.ticks) = some d ∧ d.ticks = date.ticks - now.ticks := by
  have := now.lower
  have := now.upper
  have := now.offset.lower
  have := now.offset.upper
  have := date.lower
  have := date.upper
  have := date.offset.lower
  have := date.offset.upper
  rw [Duration.ofTicks?, dif_pos (by omega)]
  exact ⟨_, rfl, rfl⟩

lemma seconds?_eq_none_iff : seconds? text = none ↔ Uncounted text := by
  rw [Option.eq_none_iff_forall_ne_some]
  constructor
  · intro h n counts
    exact Nat.not_lt.mp fun small => h n (seconds?_eq_some_iff.mpr ⟨counts, small⟩)
  · intro h n found
    obtain ⟨counts, small⟩ := seconds?_eq_some_iff.mp found
    exact absurd (h n counts) (Nat.not_le.mpr small)

lemma shows_iff : Header.Shows value text ↔ (Header.text? value).map trim = some text := by
  rw [Option.map_eq_some_iff]
  constructor
  · rintro ⟨cs, written, plain, strips⟩
    exact ⟨cs, Header.text?_eq_some_iff.mpr ⟨written, plain⟩, strips.trim_eq⟩
  · rintro ⟨cs, found, rfl⟩
    obtain ⟨written, plain⟩ := Header.text?_eq_some_iff.mp found
    exact ⟨cs, written, plain, strips_trim cs⟩

lemma until?_eq (now : Instant) (text : List Char) : until? now text = (MailDate.parse? text).bind
    fun date => if now < date then Duration.ofTicks? (date.ticks - now.ticks) else none := rfl

def ofValue? (now : Instant) (value : Bytes) : Option Duration :=
  ((Header.text? value).map trim).bind (ofText? now)

lemma ofText?_counted (now : Instant) (counts : Counts text n) (small : n < 4294967296) :
    ∃ d, ofText? now text = some d ∧ d.ticks = n * 1000000000 := by
  rw [ofText?, seconds?_eq_some_iff.mpr ⟨counts, small⟩]
  exact ticks_ofSeconds? small

lemma ofText?_uncounted (uncounted : Uncounted text) : ofText? now text = until? now text := by
  rw [ofText?, seconds?_eq_none_iff.mpr uncounted]

lemma ofText?_future (uncounted : Uncounted text) (dated : MailDate.parse? text = some date)
    (future : now < date) : ∃ d, ofText? now text = some d ∧ d.ticks = date.ticks - now.ticks := by
  rw [ofText?_uncounted uncounted, until?_eq, dated, Option.bind_some, if_pos future]
  exact ticks_until now date

lemma ofText?_past (uncounted : Uncounted text)
    (past : ∀ date, MailDate.parse? text = some date → ¬ now < date) : ofText? now text = none := by
  rw [ofText?_uncounted uncounted, until?_eq, Option.bind_eq_none_iff]
  intro date dated
  rw [if_neg (past date dated)]

lemma exists_hints (now : Instant) (value : Bytes) : ∃ hint, Hints now value hint := by
  by_cases shown : ∃ text, Header.Shows value text
  · obtain ⟨text, shows⟩ := shown
    by_cases counted : ∃ n, Counts text n ∧ n < 4294967296
    · obtain ⟨n, counts, small⟩ := counted
      obtain ⟨d, -, exact⟩ := ticks_ofSeconds? small
      exact ⟨_, .seconds shows counts small exact⟩
    · have uncounted : Uncounted text := fun n counts =>
        Nat.not_lt.mp fun small => counted ⟨n, counts, small⟩
      by_cases dated : ∃ date, MailDate.parse? text = some date ∧ now < date
      · obtain ⟨date, dated, future⟩ := dated
        obtain ⟨d, -, exact⟩ := ticks_until now date
        exact ⟨_, .date shows uncounted dated future exact⟩
      · exact ⟨_, .past shows uncounted fun date found future => dated ⟨date, found, future⟩⟩
  · exact ⟨_, .unshown (not_exists.mp shown)⟩

lemma ofValue?_of_hints (h : Hints now value hint) : ofValue? now value = hint := by
  have same {d d' : Duration} (ticks : d'.ticks = d.ticks) : some d' = some d := by
    cases d
    cases d'
    cases ticks
    rfl
  cases h with
  | seconds shows counts small exact =>
    obtain ⟨d, found, ticks⟩ := ofText?_counted now counts small
    rw [ofValue?, shows_iff.mp shows, Option.bind_some, found]
    exact same (ticks.trans exact.symm)
  | date shows uncounted dated future exact =>
    obtain ⟨d, found, ticks⟩ := ofText?_future uncounted dated future
    rw [ofValue?, shows_iff.mp shows, Option.bind_some, found]
    exact same (ticks.trans exact.symm)
  | past shows uncounted past =>
    rw [ofValue?, shows_iff.mp shows, Option.bind_some, ofText?_past uncounted past]
  | unshown h =>
    have none : (Header.text? value).map trim = none :=
      Option.eq_none_iff_forall_ne_some.mpr fun text found => h text (shows_iff.mpr found)
    rw [ofValue?, none, Option.bind_none]

theorem hints_iff : Hints now value hint ↔ ofValue? now value = hint := by
  constructor
  · exact ofValue?_of_hints
  · rintro rfl
    obtain ⟨hint, hints⟩ := exists_hints now value
    exact ofValue?_of_hints hints ▸ hints

lemma ofHeaders?_eq (now : Instant) (headers : List Header) :
    ofHeaders? now headers = (Header.first? "retry-after" headers).bind (ofValue? now) := by
  rw [ofHeaders?]
  cases Header.first? "retry-after" headers with
  | none => rfl
  | some value =>
    change ((Header.text? value).bind fun text => ofText? now (trim text)) = ofValue? now value
    rw [ofValue?, Option.bind_map]
    rfl

lemma Hints.none_of_letterless (h : Hints now value hint) (shows : Header.Shows value text)
    (uncounted : Uncounted text) (letterless : text.any Char.isAlpha = false) : hint = none := by
  have past : ∀ date, MailDate.parse? text = some date → ¬ now < date := by
    intro date dated
    cases letterless.symm.trans (MailDate.any_letter dated)
  exact (hints_iff.mp h).symm.trans (hints_iff.mp (.past shows uncounted past))

lemma Hints.positive (h : Hints now value (some d)) :
    0 ≤ d.ticks ∧ ∀ text, Header.Shows value text → Uncounted text → 0 < d.ticks := by
  cases h with
  | @seconds shown n _ shows counts small exact =>
    refine ⟨by omega, fun text shows' uncounted => ?_⟩
    obtain rfl : shown = text := Option.some.inj ((shows_iff.mp shows).symm.trans (shows_iff.mp shows'))
    exact absurd (uncounted n counts) (Nat.not_le.mpr small)
  | @date _ date _ shows uncounted dated future exact =>
    change now.ticks < date.ticks at future
    exact ⟨by omega, fun _ _ _ => by omega⟩

/-- The first header that is named so decides, whatever follows it: a number of seconds that 32 bits hold is
the hint, and anything else gives one only as a date that is still to come. A number that is too large, or
has another sign or a fraction, gives none, and the status is that of the answer. -/
theorem hint_of_first (now : Instant) (status : Nat) (headers : List Header) :
    (Metadata.ofResponse now status headers).status = some status ∧
    ((∀ h ∈ headers, ¬ h.IsNamed "retry-after") →
      (Metadata.ofResponse now status headers).retryAfter = none) ∧
    ∀ before header after, headers = before ++ header :: after →
      (∀ h ∈ before, ¬ h.IsNamed "retry-after") → header.IsNamed "retry-after" →
      (∀ hint, (Metadata.ofResponse now status headers).retryAfter = hint ↔
        Hints now header.value hint) ∧
      (∀ text, Header.Shows header.value text → Uncounted text → text.any Char.isAlpha = false →
        (Metadata.ofResponse now status headers).retryAfter = none) ∧
      ∀ d, (Metadata.ofResponse now status headers).retryAfter = some d →
        0 ≤ d.ticks ∧ ∀ text, Header.Shows header.value text → Uncounted text → 0 < d.ticks := by
  have named (h : Header) : h.hasName "retry-after" = true ↔ h.IsNamed "retry-after" :=
    Header.hasName_iff (by decide) (by decide)
  refine ⟨rfl, fun none => ?_, ?_⟩
  · have nowhere : headers.find? (Header.hasName "retry-after") = Option.none :=
      List.find?_eq_none.mpr fun h hm => mt (named h).mp (none h hm)
    rw [Metadata.ofResponse, ofHeaders?_eq, Header.first?, nowhere]
    rfl
  · rintro before header after rfl others first
    have hints (hint : Option Duration) :
        (Metadata.ofResponse now status (before ++ header :: after)).retryAfter = hint ↔
          Hints now header.value hint := by
      rw [Metadata.ofResponse, ofHeaders?_eq, Header.first?_append
        (fun h hm => Bool.eq_false_iff.mpr (mt (named h).mp (others h hm))) ((named header).mpr first),
        Option.bind_some, hints_iff]
    refine ⟨hints, fun text shows uncounted letterless => ?_, fun d found => ((hints _).mp found).positive⟩
    exact ((hints _).mp rfl).none_of_letterless shows uncounted letterless

def noon : Instant := ⟨1735732800000000000, .utc, by decide, by decide⟩

def nineSecondsLater : Instant := ⟨1735732809000000000, .utc, by decide, by decide⟩

def delaying (value : String) : Header := ⟨Utf8.ofString "rEtry-After", Utf8.ofString value⟩

def dated : Header := ⟨Utf8.ofString "Date", Utf8.ofString "9"⟩

theorem hint_of_first_delaying :
    let after (value : String) :=
      (Metadata.ofResponse noon 429 [dated, delaying value, delaying "5"]).retryAfter
    after "\t+0007 " = some ⟨7000000000, by decide, by decide⟩ ∧ after "4294967296" = none ∧ after "0.5" = none ∧
      after "Wed, 1 Jan 2025 12:00:09 GMT" = some ⟨9000000000, by decide, by decide⟩ := by
  intro after
  have unnamed : ∀ h ∈ [dated], ¬ h.IsNamed "retry-after" := by
    intro h hm
    rw [← Header.hasName_iff (by decide) (by decide), List.mem_singleton.mp hm]
    decide +kernel
  have decides (value : String) := (hint_of_first noon 429 [dated, delaying value, delaying "5"]).2.2
    [dated] (delaying value) [delaying "5"] rfl unnamed ⟨"rEtry-After".toList, rfl, by decide⟩
  have shows {value : String} (plain : Header.IsPlain value.toList) :
      Header.Shows (delaying value).value (trim value.toList) := ⟨_, rfl, plain, strips_trim _⟩
  have uncounted {value : String} (h : seconds? (trim value.toList) = none) :
      Uncounted (trim value.toList) := seconds?_eq_none_iff.mp h
  refine ⟨((decides _).1 _).mpr ?_, ?_, ?_, ((decides _).1 _).mpr ?_⟩
  · have counts : Counts (trim "\t+0007 ".toList) 7 := (seconds?_eq_some_iff.mp (by decide)).1
    exact .seconds (shows (by decide)) counts (by decide) rfl
  · exact (decides _).2.1 _ (shows (by decide)) (uncounted (by decide)) (by decide)
  · exact (decides _).2.1 _ (shows (by decide)) (uncounted (by decide)) (by decide)
  · have parsed : MailDate.parse? (trim "Wed, 1 Jan 2025 12:00:09 GMT".toList) = some nineSecondsLater := by
      decide +kernel
    exact .date (shows (by decide)) (uncounted (by decide)) parsed (by decide) rfl

end RetryAfter

end RegistryLogin
