import RegistryLogin.Proofs.Calls.Answers
import RegistryLogin.Proofs.Record.Counts

/-! Which spans are entered when something happens. -/

namespace RegistryLogin

def Errand.flows : Errand → List Flow
  | .prime => []
  | .provide _ => [.provide]

def Errand.place? (errand : Errand) (event : Event) : Option (List Flow) :=
  match errand, event with
  | .provide _, .opened .provide | .provide _, .counted .provide _ => some []
  | .provide _, .sourcePolled => some [.identityRefresh, .provide]
  | .provide _, .building _ _ | .provide _, .exchanging _ | .provide _, .exchangePolled =>
    some [.registryExchange, .provide]
  | .provide _, _ => some [.provide]
  | .prime, .sourcePolled => some [.identityRefresh]
  | .prime, .opened .identityRefresh | .prime, .counted .identityRefresh _ | .prime, .asked _
  | .prime, .refreshed _ => some []
  | .prime, _ => none

def Line.Fits (errand : Errand) (outer : List Flow) (l : Line) : Prop :=
  errand.place? l.event = some (l.within ++ outer)

section

variable {errand : Errand} {outer : List Flow} {lines : List Line}

lemma Line.fits_inside {flow : Flow} (h : ∀ l ∈ lines, l.Fits errand (flow :: outer)) :
    ∀ l ∈ lines.map (Line.inside flow), l.Fits errand outer := by
  intro l hl
  obtain ⟨l, mem, rfl⟩ := List.mem_map.mp hl
  have place := h l mem
  rw [Fits] at place
  simpa [Fits, inside] using place

lemma Errand.opening_fits (errand : Errand) : ∀ l ∈ errand.opening, l.Fits errand [] := by
  cases errand with
  | prime => exact List.forall_mem_nil _
  | provide reference => exact List.forall_mem_cons.mpr ⟨rfl, List.forall_mem_singleton.mpr rfl⟩

lemma Errand.resolving_fits (errand : Errand) : ∀ l ∈ errand.resolving, l.Fits errand errand.flows := by
  cases errand with
  | prime => exact List.forall_mem_nil _
  | provide reference => exact List.forall_mem_singleton.mpr rfl

lemma Contact.lines_fit (contact : Contact) (errand : Errand) :
    ∀ l ∈ contact.lines, l.Fits errand errand.flows := by
  cases contact with
  | asked call request =>
    rw [lines, List.forall_mem_cons, List.forall_mem_cons, List.forall_mem_singleton]
    cases errand <;> exact ⟨rfl, rfl, rfl⟩
  | polled call =>
    rw [lines, List.forall_mem_singleton]
    cases errand <;> rfl

lemma settledLines_fit (r : Progress IdentityToken) (errand : Errand) :
    ∀ l ∈ settledLines r, l.Fits errand errand.flows := by
  rcases r with phase | (cause | token) | stage
  · exact List.forall_mem_nil _
  · rw [settledLines, List.forall_mem_singleton]
    cases errand <;> rfl
  · rw [settledLines, List.forall_mem_cons, List.forall_mem_singleton]
    cases errand <;> exact ⟨rfl, rfl⟩
  · exact List.forall_mem_nil _

lemma searchLines_fit (contacts : List Contact) (r : Progress IdentityToken) (errand : Errand) :
    ∀ l ∈ searchLines contacts r, l.Fits errand errand.flows := by
  rw [searchLines, List.forall_mem_append]
  constructor
  · intro l hl
    obtain ⟨contact, -, mem⟩ := List.mem_flatMap.mp hl
    exact contact.lines_fit errand l mem
  · split
    · simp
    · exact settledLines_fit r errand

lemma closeLines_fit (next : Phase) (reference : String) :
    ∀ l ∈ closeLines next, l.Fits (.provide reference) [] := by
  rcases next with _ | _ | _ | ((error | credential) | _ | _)
  case done.returned.error => exact List.forall_mem_singleton.mpr rfl
  case done.returned.ok => exact List.forall_mem_singleton.mpr rfl
  all_goals exact List.forall_mem_nil _

end

namespace Provider

variable {World Client : Type} (p : Provider World Client)

lemma connectLines_fit (host : String) (token : IdentityToken) (world : World) (reference : String) :
    ∀ l ∈ p.connectLines host token world,
      l.Fits (.provide reference) [.registryExchange, .provide] := by
  rw [connectLines]
  split
  · exact List.forall_mem_nil _
  · rw [List.forall_mem_cons]
    refine ⟨rfl, ?_⟩
    split
    · exact List.forall_mem_nil _
    · exact List.forall_mem_cons.mpr ⟨rfl, List.forall_mem_singleton.mpr rfl⟩

lemma endLines_fit (host : String) (next : Phase) (reference : String) :
    ∀ l ∈ p.endLines host next, l.Fits (.provide reference) [.provide] :=
  p.forall_mem_endLines host next (fun _ => rfl) rfl rfl

lemma exchangeLines_fit (host : String) (token : IdentityToken) (world : World) (next : Phase)
    (reference : String) :
    ∀ l ∈ p.exchangeLines host token world next, l.Fits (.provide reference) [.provide] := by
  rw [exchangeLines, List.forall_mem_append, List.forall_mem_append]
  refine ⟨⟨?_, Line.fits_inside (p.connectLines_fit host token world reference)⟩,
    p.endLines_fit host next reference⟩
  exact List.forall_mem_cons.mpr ⟨rfl, List.forall_mem_singleton.mpr rfl⟩

lemma pollExchangeLines_fit (host : String) (next : Phase) (reference : String) :
    ∀ l ∈ p.pollExchangeLines host next, l.Fits (.provide reference) [] := by
  rw [pollExchangeLines, List.forall_mem_append]
  refine ⟨Line.fits_inside ?_, closeLines_fit next reference⟩
  rw [List.forall_mem_cons]
  exact ⟨rfl, p.endLines_fit host next reference⟩

variable {p} {errand : Errand} {job : Job}

inductive Undertakes : Errand → Job → Prop
  | prime : Undertakes .prime .warmUp
  | provide (reference host : String) : Undertakes (.provide reference) (.login host)

lemma undertakes_of_jobOf (h : p.jobOf errand = .ok job) : Undertakes errand job := by
  cases errand with
  | prime =>
    obtain rfl := Except.ok.inj h
    exact .prime
  | provide reference =>
    rw [jobOf] at h
    cases hr : p.collaborators.resolveHost reference with
    | error error => cases hr ▸ h
    | ok host =>
      obtain rfl : Job.login host = job := Except.ok.inj (hr ▸ h)
      exact .provide reference host

lemma Undertakes.proceedLines_fit (h : Undertakes errand job) (r : Progress IdentityToken)
    (world : World) (next : Phase) : ∀ l ∈ p.proceedLines job r world next, l.Fits errand errand.flows := by
  cases h with
  | prime => simp [proceedLines]
  | provide reference host =>
    rcases r with _ | (_ | token) | _
    case finished.ok => exact p.exchangeLines_fit host token world next reference
    all_goals simp [proceedLines]

lemma Undertakes.lines_fit (h : Undertakes errand job) {lead body : List Line} (next : Phase)
    (lead_fits : ∀ l ∈ lead, l.Fits errand errand.flows)
    (body_fits : ∀ l ∈ body, l.Fits errand errand.flows) :
    ∀ l ∈ job.lines lead body next, l.Fits errand [] := by
  have fit := List.forall_mem_append.mpr ⟨lead_fits, body_fits⟩
  cases h with
  | prime => exact fit
  | provide reference host =>
    rw [Job.lines, List.forall_mem_append]
    exact ⟨Line.fits_inside fit, closeLines_fit next reference⟩

end Provider

namespace Session

variable {World Client : Type} {p : Provider World Client} {s : Session World}

lemma Origin.fits {m : Move} {errand : Errand} {job : Job} {opening lead : List Line}
    (h : s.Origin m errand job opening lead) :
    (∀ l ∈ opening, l.Fits errand []) ∧ ∀ l ∈ lead, l.Fits errand errand.flows := by
  cases h with
  | start => exact ⟨errand.opening_fits, errand.resolving_fits⟩
  | poll => simp

def errandOf (s : Session World) (c : Nat) : Option Errand := s.calls[c]?.map (·.errand)

lemma Reports.fit {m : Move} {lines : List Line} (h : s.Reports p m lines) :
    ∀ l ∈ lines, ∃ errand, (s.move p m).errandOf (s.callOf m) = some errand ∧ l.Fits errand [] := by
  have of_call {errand : Errand} {next : Phase} (lines : List Line)
      (after : (s.move p m).calls[s.callOf m]? = some ⟨errand, next⟩)
      (fit : ∀ l ∈ lines, l.Fits errand []) :
      ∀ l ∈ lines, ∃ errand, (s.move p m).errandOf (s.callOf m) = some errand ∧ l.Fits errand [] :=
    fun l hl => ⟨errand, by rw [errandOf, after]; rfl, fit l hl⟩
  cases h with
  | idle | withdrawn | abandoned => simp
  | @unresolved reference favoured error hm unresolved after =>
    refine of_call _ after ?_
    rw [List.forall_mem_append, List.forall_mem_append]
    refine ⟨(Errand.provide reference).opening_fits,
      Line.fits_inside (Errand.provide reference).resolving_fits, ?_⟩
    exact List.forall_mem_singleton.mpr rfl
  | @pursued errand job favoured opening lead y r next onErrand origin sought concluded after =>
    have undertakes := Provider.undertakes_of_jobOf onErrand
    refine of_call _ after ?_
    rw [List.forall_mem_append]
    refine ⟨origin.fits.1, undertakes.lines_fit next origin.fits.2 ?_⟩
    rw [List.forall_mem_append]
    exact ⟨searchLines_fit _ r errand, undertakes.proceedLines_fit r y.world next⟩
  | @exchanging errand host token next answer onErrand before answered after =>
    cases Provider.undertakes_of_jobOf onErrand with
    | provide reference => exact of_call _ after (p.pollExchangeLines_fit host next reference)

/-- The entry is of a call of this session, and inside just those spans of that call that its event
belongs in. -/
def Attributes (s : Session World) (entry : Entry) : Prop :=
  ∃ errand flows, s.errandOf entry.call = some errand ∧ errand.place? entry.event = some flows ∧
    entry.within = flows.map (⟨entry.call, ·⟩)

lemma move_errands (m : Move) :
    ∃ more, (s.move p m).calls.map (·.errand) = s.calls.map (·.errand) ++ more := by
  cases m with
  | start errand favoured => exact ⟨[errand], by simp [move]⟩
  | poll id favoured => exact ⟨[], by rw [move, onCall_errands, List.append_nil]⟩
  | cancel id => exact ⟨[], by rw [move, onCall_errands, List.append_nil]⟩
  | turn clock => exact ⟨[], (List.append_nil _).symm⟩

lemma move_errandOf (m : Move) {c : Nat} {errand : Errand} (h : s.errandOf c = some errand) :
    (s.move p m).errandOf c = some errand := by
  obtain ⟨more, errands⟩ := s.move_errands (p := p) m
  rw [errandOf, ← List.getElem?_map] at h ⊢
  rw [errands, List.getElem?_append_left (List.getElem?_eq_some_iff.mp h).1, h]

lemma Attributes.move {entry : Entry} (h : s.Attributes entry) (m : Move) :
    (s.move p m).Attributes entry := by
  obtain ⟨errand, flows, own, place, within⟩ := h
  exact ⟨errand, flows, move_errandOf m own, place, within⟩

lemma move_attributes (hf : s.OnErrand p) (left : s.shared.entered = []) (m : Move) :
    (s.move p m).shared.entered = [] ∧ ∃ entries,
      (s.move p m).shared.trace = s.shared.trace ++ entries ∧
      ∀ entry ∈ entries, entry.call = s.callOf m ∧ (s.move p m).Attributes entry := by
  obtain ⟨lines, writes, reports⟩ := move_written p hf m
  refine ⟨writes.entered.trans left, _, writes.trace, fun entry he => ?_⟩
  obtain ⟨l, hl, rfl⟩ := List.mem_map.mp he
  obtain ⟨errand, own, fits⟩ := reports.fit l hl
  refine ⟨rfl, errand, l.within, own, ?_, ?_⟩
  · rwa [Line.Fits, List.append_nil] at fits
  · rw [Line.entry, left, List.append_nil]

lemma run_attributes (hf : s.OnErrand p) (left : s.shared.entered = [])
    (h : ∀ entry ∈ s.shared.trace, s.Attributes entry) (moves : List Move) :
    (s.run p moves).shared.entered = [] ∧
      ∀ entry ∈ (s.run p moves).shared.trace, (s.run p moves).Attributes entry := by
  induction moves generalizing s with
  | nil => exact ⟨left, h⟩
  | cons m moves ih =>
    obtain ⟨left', entries, trace, fresh⟩ := move_attributes hf left m
    refine ih (move_onErrand hf m) left' ?_
    rw [trace, List.forall_mem_append]
    exact ⟨fun entry he => (h entry he).move m, fun entry he => (fresh entry he).2⟩

/-- In every run, what a poll writes is of the call that is polled and inside that call's own spans
only; between polls no span is entered. -/
theorem spans_attributed (p : Provider World Client) (seed : TokenCache) (clock : Instant)
    (world : World) (moves : List Move) :
    let s := (ofSeed seed clock world).run p moves
    s.shared.entered = [] ∧ (∀ entry ∈ s.shared.trace, s.Attributes entry) ∧
      ∀ m, ∃ entries, (s.move p m).shared.trace = s.shared.trace ++ entries ∧
        ∀ entry ∈ entries, entry.call = s.callOf m ∧ (s.move p m).Attributes entry := by
  intro s
  have hf : s.OnErrand p := run_onErrand (ofSeed_onErrand seed clock world) moves
  obtain ⟨left, all⟩ := run_attributes (p := p) (ofSeed_onErrand seed clock world) rfl
    (List.forall_mem_nil _) moves
  exact ⟨left, all, fun m => (move_attributes hf left m).2⟩

def askingCancelled : List Move :=
  [.start (.provide "r.io") false, .start .prime false, .start (.provide "q.io") false, .cancel 0,
    .poll 1 true, .poll 1 false, .poll 2 false, .poll 2 false]

def askingCancelledEntries (expiry : Instant) : List Entry :=
  [⟨0, [⟨0, .identityRefresh⟩, ⟨0, .provide⟩], .sourcePolled⟩,
    ⟨1, [⟨1, .identityRefresh⟩], .sourcePolled⟩,
    ⟨1, [], .refreshed expiry⟩,
    ⟨2, [⟨2, .registryExchange⟩, ⟨2, .provide⟩], .exchangePolled⟩,
    ⟨2, [⟨2, .provide⟩], .exchanged "q.io"⟩]

def unhurried : Answers Unit := { Answers.numbered with identity := Answers.hourly.identity }

theorem spans_attributed_askingCancelled :
    let s := (ofSeed .empty ⟨0, .utc, by decide, by decide⟩ 0).run unhurried.provider askingCancelled
    let expiry : Instant := ⟨3600000000000, .utc, by decide, by decide⟩
    s.shared.entered = [] ∧
      ∀ entry ∈ askingCancelledEntries expiry, entry ∈ s.shared.trace ∧ s.Attributes entry := by
  intro s expiry
  have attributed :=
    spans_attributed unhurried.provider .empty ⟨0, .utc, by decide, by decide⟩ 0 askingCancelled
  have written : ∀ entry ∈ askingCancelledEntries expiry, entry ∈ s.shared.trace := by decide +kernel
  exact ⟨attributed.1, fun entry he => ⟨written entry he, attributed.2.1 entry (written entry he)⟩⟩

end Session

end RegistryLogin
