import RegistryLogin.Proofs.Calls.Answers
import RegistryLogin.Proofs.Record.Histories
import RegistryLogin.Proofs.Refresh.SourceCalls
import RegistryLogin.Provider.Diagnostics

/-! What a recorder sees of a provider, next to what the provider keeps itself. -/

namespace RegistryLogin

lemma Flow.label_injective {flow flow' : Flow} (h : flow.label = flow'.label) : flow = flow' := by
  cases flow <;> cases flow' <;> first | rfl | simp [Flow.label] at h

lemma Outcome.label_injective {outcome outcome' : Outcome} (h : outcome.label = outcome'.label) :
    outcome = outcome' := by
  cases outcome <;> cases outcome' <;> first | rfl | simp [Outcome.label] at h

namespace Event

def series? (event : Event) : Option Series := event.diagnostic.series?

def isAsked : Event → Bool
  | .asked _ => true
  | _ => false

def isRefreshed : Event → Bool
  | .refreshed _ => true
  | _ => false

def isExchanged : Event → Bool
  | .exchanged _ => true
  | _ => false

lemma series?_flowTotal (event : Event) (flow : Flow) (outcome : Outcome) :
    event.series? = some (.flowTotal flow.label outcome.label) ↔ event = .counted flow outcome := by
  constructor
  · intro h
    cases event with
    | counted flow' outcome' =>
      simp only [series?, diagnostic, Diagnostic.series?, Series.flowTotal, Option.some.injEq,
        Series.mk.injEq, List.cons.injEq, Prod.mk.injEq, true_and, and_true] at h
      rw [Flow.label_injective h.1, Outcome.label_injective h.2]
    | reported sink host =>
      cases sink <;>
        simp [series?, diagnostic, Diagnostic.series?, Series.flowTotal, Series.exchangeDuration] at h
    | _ => cases h
  · rintro rfl
    rfl

lemma series?_exchangeDuration (event : Event) (host : String) :
    event.series? = some (.exchangeDuration host) ↔ event = .reported .histogram host := by
  constructor
  · intro h
    cases event with
    | counted =>
      simp [series?, diagnostic, Diagnostic.series?, Series.flowTotal, Series.exchangeDuration] at h
    | reported sink host' =>
      cases sink with
      | histogram =>
        simp only [series?, diagnostic, Diagnostic.series?, Series.exchangeDuration,
          Option.some.injEq, Series.mk.injEq, List.cons.injEq, Prod.mk.injEq, true_and, and_true] at h
        rw [h]
      | custom => cases h
    | _ => cases h
  · rintro rfl
    rfl

end Event

namespace Shared

variable {World : Type} (s : Shared World)

def recorded (series : Series) : Nat :=
  s.trace.countP fun entry => entry.event.series? = some series

lemma recorded_flowTotal (flow : Flow) (outcome : Outcome) :
    s.recorded (.flowTotal flow.label outcome.label) = s.told (· = .counted flow outcome) := by
  simp only [recorded, told, Event.series?_flowTotal]

lemma recorded_exchangeDuration (host : String) :
    s.recorded (.exchangeDuration host) = s.told (· = .reported .histogram host) := by
  simp only [recorded, told, Event.series?_exchangeDuration]

lemma told_asked : s.told Event.isAsked = (s.contacts.filterMap Contact.question?).length := by
  rw [told, contacts, List.filterMap_filterMap, List.length_filterMap_eq_countP]
  congr 1
  funext entry
  cases entry.event <;> rfl

end Shared

namespace Tally

def counter? (t : Tally) : Flow → Outcome → Option UInt64
  | .provide, .attempt => some t.attempts
  | .provide, .success => some t.successes
  | .provide, .failure => some t.failures
  | .identityRefresh, .success => some t.identityRefreshes
  | .identityRefresh, .failure => some t.identityRefreshFailures
  | _, _ => none

lemma counter?_written (t : Tally) (flow : Flow) (outcome : Outcome) :
    t.written.counter? flow outcome = t.counter? flow outcome := by
  cases flow <;> cases outcome <;> rfl

lemma counter?_noting (t : Tally) (l : Line) (flow : Flow) (outcome : Outcome) :
    (t.noting l).counter? flow outcome = (t.counter? flow outcome).map
      fun n => n + if l.event = .counted flow outcome then 1 else 0 := by
  obtain ⟨within, event⟩ := l
  cases event with
  | counted flow' outcome' =>
    cases flow' <;> cases outcome' <;> cases flow <;> cases outcome <;>
      simp [noting, Event.counts, counter?, attempt, succeed, fail, refresh, failRefresh]
  | _ => cases flow <;> cases outcome <;> simp [noting, Event.counts, counter?]

lemma counter?_foldl (t : Tally) (lines : List Line) (flow : Flow) (outcome : Outcome) :
    (lines.foldl noting t).counter? flow outcome = (t.counter? flow outcome).map
      fun n => n + UInt64.ofNat (lines.countP fun l => l.event = .counted flow outcome) := by
  induction lines generalizing t with
  | nil => simp
  | cons l lines ih =>
    rw [List.foldl_cons, ih, counter?_noting, Option.map_map, List.countP_cons]
    congr 1
    funext n
    by_cases h : l.event = .counted flow outcome
    · simp [h, UInt64.ofNat_add, UInt64.add_assoc, UInt64.add_comm]
    · simp [h]

end Tally

namespace Phase

def lacksRefreshToken : Phase → Bool
  | .done (.returned (.error (.missingRefreshToken _))) => true
  | _ => false

def isPaid : Phase → Bool
  | .done (.returned (.ok _)) => true
  | .done (.overflowed .exchange) => true
  | _ => false

lemma tokens_of_lacks {phase : Phase} (h : phase.lacksRefreshToken = true) :
    phase.isPaid = false ∧ phase.hasToken = true := by
  rcases phase with _ | _ | _ | ((error | _) | _ | _)
  · cases h
  · cases h
  · cases h
  · cases error <;> first | exact ⟨rfl, rfl⟩ | cases h
  · cases h
  · cases h
  · cases h

end Phase

namespace Call

def hasToken (call : Call) : Bool := call.phase.hasToken

def isIdentified (call : Call) : Bool := call.isProvide && call.hasToken

def lacksRefreshToken (call : Call) : Bool := call.isProvide && call.phase.lacksRefreshToken

variable {World Client : Type} (p : Provider World Client)

def hasSucceededAt (host : String) (call : Call) : Bool :=
  p.hostOf call.errand = some host && call.hasSucceeded

def hasOverflowedAt (host : String) (call : Call) : Bool :=
  p.hostOf call.errand = some host && call.phase matches .done (.overflowed .exchange)

variable {p}

lemma Fits.hostOf {call : Call} (h : call.Fits p) (token : call.hasToken = true) :
    (p.hostOf call.errand).isSome = call.isProvide := by
  rcases h with resolved | ⟨reference, error, rfl⟩
  · obtain ⟨_ | reference, phase⟩ := call
    · rfl
    · cases hr : p.collaborators.resolveHost reference with
      | ok host => simp [Provider.hostOf, Provider.jobOf, hr, Except.map, isProvide, Errand.isProvide]
      | error error =>
        simp [isResolved, Provider.jobOf, hr, Except.map, Except.isOk, Except.toBool] at resolved
  · cases token

end Call

def SearchCount.obtained (a : SearchCount) : UInt64 := a.hits + a.refreshes

namespace Provider

variable {World Client : Type} {p : Provider World Client}

lemma Course.obtains {y : IdentitySide World} {next : Phase} {job : Job} {r : Progress IdentityToken}
    (h : p.Course y next job r) {a b : SearchCount} (counted : a.Counted b r) :
    b.obtained = a.obtained + .ofNat (if next.hasToken then 1 else 0) := by
  have some_more {token : IdentityToken} (counted : a.Counted b (.finished (.ok token))) :
      b.obtained = a.obtained + 1 := by
    cases counted with
    | hit => simp only [SearchCount.obtained]; ac_rfl
    | refreshed => simp only [SearchCount.obtained]; ac_rfl
  cases h with
  | seeks seeks =>
    cases counted
    simp [seeks.hasToken]
  | overflowed hn =>
    cases counted
    simp [hn, Phase.hasToken]
  | refused cause hn =>
    cases counted
    simp [hn, Phase.hasToken, SearchCount.obtained]
  | primed token hn =>
    rw [some_more counted, hn]
    rfl
  | connected connected =>
    rw [some_more counted, connected.hasToken]
    rfl

def Tells (p : Provider World Client) (g : Event → Bool) (f : String → Phase → Bool) : Prop :=
  ∀ host phase, (p.exchangeHistory host phase).countP g = if f host phase then 1 else 0

lemma tells_attempt :
    p.Tells (· = .counted .registryExchange .attempt) fun _ phase => phase.hasToken := by
  rintro host (_ | _ | _ | ((_ | _ | _ | _ | _ | _) | _) | (_ | _) | (_ | _))
  all_goals simp [exchangeHistory, Phase.hasToken, endLines, Line.plain]

lemma tells_success : p.Tells (· = .counted .registryExchange .success)
    fun _ phase => phase.isPaid || phase.lacksRefreshToken := by
  rintro host (_ | _ | _ | ((_ | _ | _ | _ | _ | _) | _) | (_ | _) | (_ | _))
  all_goals
    simp [exchangeHistory, Phase.hasToken, Phase.isPaid, Phase.lacksRefreshToken, endLines, Line.plain]

lemma tells_exchanged : p.Tells Event.isExchanged fun _ phase => phase.isPaid := by
  rintro host (_ | _ | _ | ((_ | _ | _ | _ | _ | _) | _) | (_ | _) | (_ | _)) <;> rfl

lemma tells_exchangedWith (host : String) :
    p.Tells (· = .exchanged host) fun host' phase => host' = host && phase.isPaid := by
  rintro host' (_ | _ | _ | ((_ | _ | _ | _ | _ | _) | _) | (_ | _) | (_ | _))
  all_goals simp [exchangeHistory, Phase.hasToken, Phase.isPaid, endLines, Line.plain]

lemma tells_reported (installed : p.sink = .histogram) (host : String) :
    p.Tells (· = .reported .histogram host) fun host' phase => host' = host && phase.isPaid := by
  rintro host' (_ | _ | _ | ((_ | _ | _ | _ | _ | _) | _) | (_ | _) | (_ | _))
  all_goals
    simp [exchangeHistory, Phase.hasToken, Phase.isPaid, endLines, Line.plain, installed, List.countP_cons]

end Provider

namespace Session

variable {World Client : Type} {p : Provider World Client} {s : Session World}

lemma run_counters_from (hf : s.OnErrand p) {flow : Flow} {outcome : Outcome}
    (h : ∀ n ∈ s.shared.tally.counter? flow outcome,
      n = .ofNat (s.shared.told (· = .counted flow outcome))) (moves : List Move) :
    ∀ n ∈ (s.run p moves).shared.tally.counter? flow outcome,
      n = .ofNat ((s.run p moves).shared.told (· = .counted flow outcome)) := by
  induction moves generalizing s with
  | nil => exact h
  | cons m moves ih =>
    apply ih (move_onErrand hf m)
    intro n hn
    obtain ⟨lines, writes, -⟩ := move_written p hf m
    rw [← Tally.counter?_written, writes.tally, Tally.counter?_foldl, Tally.counter?_written] at hn
    obtain ⟨k, hk, rfl⟩ := Option.map_eq_some_iff.mp hn
    rw [h k hk, writes.told, UInt64.ofNat_add]

lemma run_counters (seed : TokenCache) (clock : Instant) (world : World) (moves : List Move)
    (flow : Flow) (outcome : Outcome) :
    let s := ((ofSeed seed clock world).run p moves).shared
    ∀ n ∈ s.tally.counter? flow outcome,
      n = .ofNat (s.recorded (.flowTotal flow.label outcome.label)) := by
  intro s
  rw [s.recorded_flowTotal]
  refine run_counters_from (ofSeed_onErrand seed clock world) ?_ moves
  cases flow <;> cases outcome <;> simp [ofSeed, initial, Shared.initial, Tally.zero, Tally.counter?,
    Shared.told]

section

variable {g g' : Event → Bool}
variable (inside : ∀ event, g event = true ∨ g' event = true → event.ofIdentity = true)
variable (met : ∀ contact : Contact, contact.lines.countP (fun l => g l.event) =
  contact.lines.countP fun l => g' l.event)
variable (settled : ∀ r, (settledLines r).countP (fun l => g l.event) =
  (settledLines r).countP fun l => g' l.event)
include inside met settled

lemma run_balanced_from (hf : s.OnErrand p) (h : s.shared.told g = s.shared.told g')
    (moves : List Move) : (s.run p moves).shared.told g = (s.run p moves).shared.told g' := by
  induction moves generalizing s with
  | nil => exact h
  | cons m moves ih =>
    apply ih (move_onErrand hf m)
    obtain ⟨lines, writes, reports⟩ := move_written p hf m
    rw [writes.told, writes.told, h, reports.balanced inside met settled]

lemma run_balanced (seed : TokenCache) (clock : Instant) (world : World) (moves : List Move) :
    ((ofSeed seed clock world).run p moves).shared.told g =
      ((ofSeed seed clock world).run p moves).shared.told g' :=
  run_balanced_from inside met settled (ofSeed_onErrand seed clock world) rfl moves

end

lemma run_history {g : Event → Bool} {f : String → Phase → Bool}
    (exchange : ∀ event, g event = true → event.ofExchange = true) (tells : p.Tells g f)
    (seed : TokenCache) (clock : Instant) (world : World) (moves : List Move) :
    let s := (ofSeed seed clock world).run p moves
    s.shared.told g = s.calls.countP fun call => (p.hostOf call.errand).any (f · call.phase) := by
  have given (s : Session World) (c : Nat) : (s.historyAt p c).countP g =
      tallied (fun call => (p.hostOf call.errand).any (f · call.phase)) s.calls[c]? := by
    rw [historyAt]
    cases s.calls[c]? with
    | none => rfl
    | some call =>
      rw [Option.elim_some, Provider.historyOf, tallied_some]
      cases p.hostOf call.errand with
      | none => rfl
      | some host => exact tells host call.phase
  refine run_counted (fun s m lines reports => ?_) seed clock world moves
  rw [← given, ← given, reports.continues, List.countP_append, Line.countP_pick _ lines exchange,
    Nat.add_comm]

lemma Origin.tokenless {m : Move} {errand : Errand} {job : Job} {opening lead : List Line}
    (h : s.Origin m errand job opening lead) : tallied Call.hasToken s.calls[s.callOf m]? = 0 := by
  cases h with
  | start hm =>
    subst hm
    simp [callOf]
  | poll before seeks => simp [before, Call.hasToken, seeks.hasToken]

lemma Reports.obtains {m : Move} {lines : List Line} (h : s.Reports p m lines) :
    (s.move p m).shared.side.count.obtained + .ofNat (tallied Call.hasToken s.calls[s.callOf m]?) =
      s.shared.side.count.obtained +
        .ofNat (tallied Call.hasToken (s.move p m).calls[s.callOf m]?) := by
  cases h with
  | idle still count => rw [still, count]
  | unresolved hm unresolved after count =>
    rw [after, count]
    subst hm
    simp [callOf, Call.hasToken, Phase.hasToken]
  | pursued onErrand origin sought concluded after =>
    have counted := sought.counted
    rw [← concluded.count] at counted
    rw [(concluded.course sought.search).obtains counted, origin.tokenless, after, tallied_some]
    exact UInt64.add_zero _
  | exchanging onErrand before answered after side =>
    rw [side, after, before, tallied_some, tallied_some, Call.hasToken, Call.hasToken,
      answered.hasToken]
    rfl
  | withdrawn onErrand before seeks hm after count =>
    rw [count, after, before, tallied_some, tallied_some, Call.hasToken, Call.hasToken,
      seeks.hasToken]
    rfl
  | abandoned onErrand before after side =>
    rw [side, after, before]
    rfl

lemma identified_split {calls : List Call} (fits : ∀ call ∈ calls, call.Fits p) :
    calls.countP (fun call => (p.hostOf call.errand).any fun _ => call.phase.hasToken) =
      calls.countP Call.isIdentified := by
  apply List.countP_congr
  intro call hc
  cases token : call.hasToken with
  | false => simp [Call.isIdentified, token, show call.phase.hasToken = false from token]
  | true =>
    have host := (fits call hc).hostOf token
    rw [Call.isIdentified, token, ← host, show call.phase.hasToken = true from token]
    cases p.hostOf call.errand <;> rfl

lemma answered_split {calls : List Call} (fits : ∀ call ∈ calls, call.Fits p) :
    calls.countP (fun call => (p.hostOf call.errand).any fun _ =>
        call.phase.isPaid || call.phase.lacksRefreshToken) =
      calls.countP (fun call => (p.hostOf call.errand).any fun _ => call.phase.isPaid) +
        calls.countP Call.lacksRefreshToken := by
  have h : calls.countP (fun call => (p.hostOf call.errand).any fun _ =>
      call.phase.isPaid || call.phase.lacksRefreshToken) =
      ([fun call => (p.hostOf call.errand).any fun _ => call.phase.isPaid,
        Call.lacksRefreshToken].map fun g => calls.countP g).sum := by
    apply countP_split
    intro call hc
    cases lacks : call.phase.lacksRefreshToken with
    | false => simp [Call.lacksRefreshToken, lacks]
    | true =>
      obtain ⟨unpaid, token⟩ := Phase.tokens_of_lacks lacks
      have host := (fits call hc).hostOf token
      simp only [Call.lacksRefreshToken, lacks, ← host, unpaid, List.map_cons, List.map_nil]
      cases p.hostOf call.errand <;> rfl
  simpa using h

lemma paid_split (p : Provider World Client) (calls : List Call) (host : String) :
    calls.countP (fun call => (p.hostOf call.errand).any fun host' =>
        host' = host && call.phase.isPaid) =
      calls.countP (Call.hasSucceededAt p host) + calls.countP (Call.hasOverflowedAt p host) := by
  have h : calls.countP (fun call => (p.hostOf call.errand).any fun host' =>
      host' = host && call.phase.isPaid) =
      ([Call.hasSucceededAt p host, Call.hasOverflowedAt p host].map fun g => calls.countP g).sum := by
    apply countP_split
    rintro ⟨_ | reference, phase⟩ -
    · rfl
    · cases hr : p.hostOf (.provide reference) with
      | none => simp [Call.hasSucceededAt, Call.hasOverflowedAt, hr]
      | some host' =>
        by_cases hh : host' = host
        · rcases phase with _ | _ | _ | ((_ | _) | (_ | _) | _) <;>
            simp [Call.hasSucceededAt, Call.hasOverflowedAt, Call.hasSucceeded, Call.isProvide,
              Errand.isProvide, Phase.isPaid, hr, hh]
        · simp [Call.hasSucceededAt, Call.hasOverflowedAt, hr, hh]
  simpa using h

lemma run_asked (p : Provider World Client) (seed : TokenCache) (clock : Instant) (world : World)
    (moves : List Move) :
    ((ofSeed seed clock world).run p moves).shared.told (· = .counted .identityRefresh .attempt) =
      ((ofSeed seed clock world).run p moves).shared.told Event.isAsked := by
  apply run_balanced
  · rintro event (h | h)
    · rw [of_decide_eq_true h]
      rfl
    · cases event <;> first | rfl | cases h
  · rintro (_ | _) <;> rfl
  · rintro (_ | (_ | _) | _) <;> rfl

lemma run_refreshed (p : Provider World Client) (seed : TokenCache) (clock : Instant) (world : World)
    (moves : List Move) :
    ((ofSeed seed clock world).run p moves).shared.told (· = .counted .identityRefresh .success) =
      ((ofSeed seed clock world).run p moves).shared.told Event.isRefreshed := by
  apply run_balanced
  · rintro event (h | h)
    · rw [of_decide_eq_true h]
      rfl
    · cases event <;> first | rfl | cases h
  · rintro (_ | _) <;> rfl
  · rintro (_ | (_ | _) | _) <;> rfl

/-- In every reachable state the counters of the recorder agree with those of the provider, with the
calls of its source and with how its logins have got on, and so do the histogram and the events. An
exchange counts as a success as soon as it is answered, whether or not the login is one. -/
theorem exports_agree (p : Provider World Client) (installed : p.sink = .histogram) (seed : TokenCache)
    (clock : Instant) (world : World) (moves : List Move) :
    let s := (ofSeed seed clock world).run p moves
    let t := s.shared.tally
    let counter (flow outcome : String) := s.shared.recorded (.flowTotal flow outcome)
    (t.attempts = .ofNat (counter "provide" "attempt") ∧
      t.successes = .ofNat (counter "provide" "success") ∧
      t.failures = .ofNat (counter "provide" "failure")) ∧
    (counter "identity_refresh" "attempt" = ((ofSeed seed clock world).sourceCalls p moves).length ∧
      t.identityRefreshes = .ofNat (counter "identity_refresh" "success") ∧
      t.identityRefreshFailures = .ofNat (counter "identity_refresh" "failure")) ∧
    (counter "registry_exchange" "attempt" = s.calls.countP Call.isIdentified ∧
      t.cacheHits + t.identityRefreshes = .ofNat (s.calls.countP Call.hasToken)) ∧
    counter "registry_exchange" "success" =
      s.shared.told Event.isExchanged + s.calls.countP Call.lacksRefreshToken ∧
    (∀ host, s.shared.recorded (.exchangeDuration host) = s.shared.told (· = .exchanged host) ∧
      s.shared.told (· = .exchanged host) =
        s.calls.countP (Call.hasSucceededAt p host) + s.calls.countP (Call.hasOverflowedAt p host)) ∧
    t.identityRefreshes = .ofNat (s.shared.told Event.isRefreshed) := by
  intro s t counter
  have fits := run_fits p seed clock world moves
  have counters := run_counters (p := p) seed clock world moves
  have asked : counter "identity_refresh" "attempt" = s.shared.told Event.isAsked :=
    (s.shared.recorded_flowTotal .identityRefresh .attempt).trans (run_asked p seed clock world moves)
  have questions := (run_recorded p seed clock world moves).questions
  have refreshed : s.shared.recorded (.flowTotal "identity_refresh" "success") =
      s.shared.told Event.isRefreshed :=
    (s.shared.recorded_flowTotal .identityRefresh .success).trans
      (run_refreshed p seed clock world moves)
  have refreshes : t.identityRefreshes = .ofNat (counter "identity_refresh" "success") :=
    counters .identityRefresh .success _ rfl
  refine ⟨⟨counters .provide .attempt _ rfl, counters .provide .success _ rfl,
    counters .provide .failure _ rfl⟩, ⟨?_, refreshes, counters .identityRefresh .failure _ rfl⟩,
    ⟨?_, ?_⟩, ?_, fun host => ⟨?_, ?_⟩, ?_⟩
  · rw [asked, Shared.told_asked]
    exact (congrArg List.length questions).trans (by simp)
  · refine (s.shared.recorded_flowTotal .registryExchange .attempt).trans ?_
    rw [← identified_split fits]
    exact run_history (by simp [Event.ofExchange]) Provider.tells_attempt seed clock world moves
  · exact run_gauged (fun _ _ _ reports => reports.obtains) rfl seed clock world moves
  · refine (s.shared.recorded_flowTotal .registryExchange .success).trans ?_
    rw [run_history (by simp [Event.ofExchange]) Provider.tells_success seed clock world moves,
      run_history (by rintro (_ | _) <;> simp [Event.ofExchange, Event.isExchanged])
        Provider.tells_exchanged seed clock world moves]
    exact answered_split fits
  · rw [s.shared.recorded_exchangeDuration,
      run_history (by simp [Event.ofExchange]) (Provider.tells_reported installed host) seed clock
        world moves,
      run_history (by simp [Event.ofExchange]) (Provider.tells_exchangedWith host) seed clock world
        moves]
  · rw [← paid_split]
    exact run_history (by simp [Event.ofExchange]) (Provider.tells_exchangedWith host) seed clock world
      moves
  · rw [refreshes, ← refreshed]

def oneCancelled : List Move :=
  [.start (.provide "r.io") false, .start (.provide "q.io") false, .cancel 1, .poll 0 false]

theorem exports_agree_oneCancelled :
    let p : Provider Nat Unit := { Answers.numbered.provider with sink := .histogram }
    let s := (ofSeed .empty ⟨0, .utc, by decide, by decide⟩ 0).run p oneCancelled
    s.shared.recorded (.flowTotal "registry_exchange" "attempt") = 2 ∧
      s.shared.recorded (.flowTotal "registry_exchange" "success") = 1 ∧
      s.shared.recorded (.exchangeDuration "r.io") = s.shared.told (· = .exchanged "r.io") ∧
      s.shared.told (· = .exchanged "r.io") =
        s.calls.countP (Call.hasSucceededAt p "r.io") + s.calls.countP (Call.hasOverflowedAt p "r.io") := by
  intro p s
  have counters : s.shared.recorded (.flowTotal "registry_exchange" "attempt") = 2 ∧
      s.shared.recorded (.flowTotal "registry_exchange" "success") = 1 := by
    decide +kernel
  obtain ⟨-, -, -, -, hosts, -⟩ := exports_agree p rfl .empty ⟨0, .utc, by decide, by decide⟩ 0 oneCancelled
  exact ⟨counters.1, counters.2, hosts "r.io"⟩

end Session

end RegistryLogin
