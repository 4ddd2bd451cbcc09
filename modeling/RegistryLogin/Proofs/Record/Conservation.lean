import RegistryLogin.Proofs.Record.Counts
import Mathlib.Algebra.BigOperators.Group.List.Basic
import Mathlib.Algebra.GroupWithZero.Nat

/-! The six counters add up. -/

namespace RegistryLogin

namespace Phase

def isSeeking : Phase → Bool
  | .waiting _ => true
  | .refreshing _ _ => true
  | _ => false

def isLost : Phase → Bool
  | .done (.cancelled .identity) => true
  | .done (.overflowed .identity) => true
  | _ => false

def isCancelled : Phase → Bool
  | .done (.cancelled _) => true
  | _ => false

def hasOverflowed : Phase → Bool
  | .done (.overflowed _) => true
  | _ => false

lemma Seeks.isSeeking {job : Job} {phase : Phase} (h : phase.Seeks job) : phase.isSeeking = true := by
  cases phase with
  | waiting => rfl
  | refreshing => rfl
  | exchanging => cases h
  | done => cases h

end Phase

namespace Call

def isPrime (call : Call) : Bool := !call.isProvide

def isRunning (call : Call) : Bool := call.isProvide && !call.isDone

def isCancelled (call : Call) : Bool := call.isProvide && call.phase.isCancelled

def hasOverflowed (call : Call) : Bool := call.isProvide && call.phase.hasOverflowed

def isSeeking (call : Call) : Bool := call.phase.isSeeking

def isLost (call : Call) : Bool := call.phase.isLost

variable {World Client : Type} (p : Provider World Client)

def isResolved (call : Call) : Bool := (p.jobOf call.errand).isOk

def isResolvedProvide (call : Call) : Bool := call.isProvide && call.isResolved p

def isPast (call : Call) : Bool := call.isResolved p && !call.isSeeking && !call.isLost

def Fits (call : Call) : Prop :=
  call.isResolved p = true ∨
    ∃ reference error, call = ⟨.provide reference, .done (.returned (.error (.hostResolution error)))⟩

variable {p}

lemma isPast_of_stays {call : Call}
    (h : call.phase.isSeeking = false ∧ call.phase.isLost = false) :
    call.isPast p = call.isResolved p := by
  simp [isPast, isSeeking, isLost, h]

lemma isResolved_of_job {errand : Errand} {job : Job} (h : p.jobOf errand = .ok job) (phase : Phase) :
    isResolved p ⟨errand, phase⟩ = true := by
  rw [isResolved, h]
  rfl

end Call

inductive SearchCount.Next (a : SearchCount) : SearchCount → Prop
  | hit : Next a { a with hits := a.hits + 1 }
  | refreshed : Next a { a with refreshes := a.refreshes + 1 }
  | failed : Next a { a with failures := a.failures + 1 }

def SearchCount.total (a : SearchCount) : UInt64 := a.hits + a.refreshes + a.failures

lemma SearchCount.Next.total {a b : SearchCount} (h : a.Next b) : b.total = a.total + 1 := by
  cases h with
  | hit => simp only [SearchCount.total]; ac_rfl
  | refreshed => simp only [SearchCount.total]; ac_rfl
  | failed => simp only [SearchCount.total]; ac_rfl

inductive SearchCount.Counted (a : SearchCount) : SearchCount → Progress IdentityToken → Prop
  | suspended (phase : Phase) : Counted a a (.suspended phase)
  | overflowed (stage : Stage) : Counted a a (.overflowed stage)
  | hit (token : IdentityToken) : Counted a { a with hits := a.hits + 1 } (.finished (.ok token))
  | refreshed (token : IdentityToken) :
    Counted a { a with refreshes := a.refreshes + 1 } (.finished (.ok token))
  | failed (error : LoginError) :
    Counted a { a with failures := a.failures + 1 } (.finished (.error error))

lemma SearchCount.Counted.next {a b : SearchCount} {result : Except LoginError IdentityToken}
    (h : a.Counted b (.finished result)) : a.Next b := by
  cases h with
  | hit => exact .hit
  | refreshed => exact .refreshed
  | failed => exact .failed

namespace Provider

variable {World Client : Type} {p : Provider World Client} {call : Nat} {job : Job}
variable {x y z : IdentitySide World} {r : Progress IdentityToken}

lemma Heard.counted {answer : Delayed (Except Cause Issued)} (h : Heard call job x answer y r) :
    x.count.Counted y.count r := by
  cases h with
  | pending => exact .suspended _
  | failed => exact .failed _
  | panicked => exact .overflowed _
  | returned => exact .refreshed _

lemma Renewed.counted (h : Renewed p call job x y r) : x.count.Counted y.count r := by
  cases h with
  | overflowed => exact .overflowed _
  | reused => exact .hit _
  | asked _ heard => exact heard.counted

lemma Sought.counted {favoured : Bool} {a : Standing} (h : Sought p call job favoured x a y r) :
    x.count.Counted y.count r := by
  cases h with
  | overflowed => exact .overflowed _
  | reused => exact .hit _
  | queued => exact .suspended _
  | entered _ _ renewed => exact renewed.counted
  | waited => exact .suspended _
  | admitted _ renewed => exact renewed.counted
  | heard heard => exact heard.counted

lemma Concluded.count {phase : Phase} (h : Concluded p y job r z phase) : z.count = y.count := by
  obtain ⟨-, world, rfl⟩ := h.standing
  rfl

lemma Answered.stays {host : String} {token : IdentityToken} {now : Instant} {phase : Phase}
    {answer : Delayed (Except Cause (Option Secret))} (h : Answered host token now answer phase) :
    phase.isSeeking = false ∧ phase.isLost = false := by
  cases h with
  | pending => exact ⟨rfl, rfl⟩
  | settled outcome =>
    refine ⟨rfl, ?_⟩
    rcases outcome with cause | _ | secret
    · rfl
    · rfl
    · rw [loginEnding]
      cases Credential.earlierExpiry? token.expiresOn now <;> rfl

lemma Connected.stays {host : String} {token : IdentityToken} {now : Instant} {world world' : World}
    {phase : Phase} (h : Connected p host token now world world' phase) :
    phase.isSeeking = false ∧ phase.isLost = false := by
  cases h with
  | noUrl => exact ⟨rfl, rfl⟩
  | noClient => exact ⟨rfl, rfl⟩
  | opened _ _ _ answered => exact answered.stays

lemma Course.counted {errand : Errand} {next : Phase} (h : p.Course y next job r)
    (onErrand : p.jobOf errand = .ok job) {a b : SearchCount} (counted : a.Counted b r) :
    Call.isPast p ⟨errand, next⟩ = false ∧ b = a ∨ Call.isPast p ⟨errand, next⟩ = true ∧ a.Next b := by
  have resolved := Call.isResolved_of_job onErrand next
  cases h with
  | seeks seeks =>
    cases counted
    exact .inl ⟨by simp [Call.isPast, Call.isSeeking, seeks.isSeeking], rfl⟩
  | overflowed hn =>
    cases counted
    exact .inl ⟨by simp [Call.isPast, Call.isLost, hn, Phase.isLost], rfl⟩
  | refused cause hn =>
    subst hn
    exact .inr ⟨by rw [Call.isPast, resolved]; rfl, counted.next⟩
  | primed token hn =>
    subst hn
    exact .inr ⟨by rw [Call.isPast, resolved]; rfl, counted.next⟩
  | connected connected =>
    exact .inr ⟨(Call.isPast_of_stays connected.stays).trans resolved, counted.next⟩

end Provider

namespace Session

variable {World Client : Type} {p : Provider World Client} {s : Session World}

lemma Origin.not_past {m : Move} {errand : Errand} {job : Job} {opening lead : List Line}
    (h : s.Origin m errand job opening lead) : tallied (Call.isPast p) s.calls[s.callOf m]? = 0 := by
  cases h with
  | start hm =>
    subst hm
    simp [callOf]
  | poll before seeks => simp [before, Call.isPast, Call.isSeeking, seeks.isSeeking]

def Passes (p : Provider World Client) (s : Session World) (m : Move) : Prop :=
  tallied (Call.isPast p) s.calls[s.callOf m]? = 0 ∧
    tallied (Call.isPast p) (s.move p m).calls[s.callOf m]? = 1

structure CountsOnce (p : Provider World Client) (s : Session World) (m : Move) : Prop where
  passes : s.Passes p m → s.shared.side.count.Next (s.move p m).shared.side.count
  stays : ¬ s.Passes p m → (s.move p m).shared.side.count = s.shared.side.count ∧
    tallied (Call.isPast p) (s.move p m).calls[s.callOf m]? =
      tallied (Call.isPast p) s.calls[s.callOf m]?

lemma CountsOnce.of_stays {m : Move} (count : (s.move p m).shared.side.count = s.shared.side.count)
    (past : tallied (Call.isPast p) (s.move p m).calls[s.callOf m]? =
      tallied (Call.isPast p) s.calls[s.callOf m]?) : s.CountsOnce p m := by
  refine ⟨?_, fun _ => ⟨count, past⟩⟩
  rintro ⟨before, after⟩
  omega

lemma Reports.countsOnce {m : Move} {lines : List Line} (h : s.Reports p m lines) :
    s.CountsOnce p m := by
  cases h with
  | idle still count => exact .of_stays count (by rw [still])
  | unresolved hm unresolved after count =>
    refine .of_stays count ?_
    subst hm
    rw [after]
    simp [callOf, Call.isPast, Call.isResolved, Provider.jobOf, unresolved, Except.map, Except.isOk,
      Except.toBool]
  | pursued onErrand origin sought concluded after =>
    have before := origin.not_past (p := p)
    have counted := sought.counted
    rw [← concluded.count] at counted
    rcases (concluded.course sought.search).counted onErrand counted with ⟨past, same⟩ | ⟨past, next⟩
    · exact .of_stays same (by rw [before, after]; simp [past])
    · have passes : s.Passes p m := ⟨before, by rw [after]; simp [past]⟩
      exact ⟨fun _ => next, fun h => absurd passes h⟩
  | @exchanging errand host token next answer onErrand before answered after side =>
    refine .of_stays (by rw [side]) ?_
    rw [after, before, tallied_some, tallied_some, Call.isPast_of_stays answered.stays,
      Call.isPast_of_stays ⟨rfl, rfl⟩]
    rfl
  | withdrawn onErrand before seeks hm after count =>
    refine .of_stays count ?_
    rw [after, before]
    simp [Call.isPast, Call.isSeeking, seeks.isSeeking, Call.isLost, Phase.isLost]
  | abandoned onErrand before after side =>
    refine .of_stays (by rw [side]) ?_
    rw [after, before, tallied_some, tallied_some, Call.isPast_of_stays ⟨rfl, rfl⟩,
      Call.isPast_of_stays ⟨rfl, rfl⟩]
    rfl

lemma move_countsOnce (hf : s.OnErrand p) (m : Move) : s.CountsOnce p m := by
  obtain ⟨lines, -, reports⟩ := move_written p hf m
  exact reports.countsOnce

lemma CountsOnce.total {m : Move} (h : s.CountsOnce p m) :
    (s.move p m).shared.side.count.total + .ofNat (tallied (Call.isPast p) s.calls[s.callOf m]?) =
      s.shared.side.count.total +
        .ofNat (tallied (Call.isPast p) (s.move p m).calls[s.callOf m]?) := by
  by_cases passes : s.Passes p m
  · rw [(h.passes passes).total, passes.1, passes.2]
    exact UInt64.add_zero _
  · obtain ⟨count, past⟩ := h.stays passes
    rw [count, past]

lemma Reports.fits {m : Move} {lines : List Line} (h : s.Reports p m lines)
    (before : ∀ call, s.calls[s.callOf m]? = some call → call.Fits p) (call : Call)
    (hc : (s.move p m).calls[s.callOf m]? = some call) : call.Fits p := by
  cases h with
  | idle still => exact before call (still.symm.trans hc)
  | unresolved _ _ after =>
    cases after.symm.trans hc
    exact .inr ⟨_, _, rfl⟩
  | pursued onErrand _ _ _ after =>
    cases after.symm.trans hc
    exact .inl (Call.isResolved_of_job onErrand _)
  | exchanging onErrand _ _ after =>
    cases after.symm.trans hc
    exact .inl (Call.isResolved_of_job onErrand _)
  | withdrawn onErrand _ _ _ after =>
    cases after.symm.trans hc
    exact .inl (Call.isResolved_of_job onErrand _)
  | abandoned onErrand _ after =>
    cases after.symm.trans hc
    exact .inl (Call.isResolved_of_job onErrand _)

lemma run_fits (p : Provider World Client) (seed : TokenCache) (clock : Instant) (world : World)
    (moves : List Move) : ∀ call ∈ ((ofSeed seed clock world).run p moves).calls, call.Fits p := by
  intro call hc
  obtain ⟨i, hi⟩ := List.getElem?_of_mem hc
  apply run_calls (fun _ _ _ => Reports.fits) (ofSeed_onErrand seed clock world) _ moves i call hi
  simp [ofSeed, initial]

lemma countP_split {α : Type} {f : α → Bool} {parts : List (α → Bool)} {l : List α}
    (h : ∀ a ∈ l, (f a).toNat = (parts.map fun g => (g a).toNat).sum) :
    l.countP f = (parts.map fun g => l.countP g).sum := by
  have one (g : α → Bool) (a : α) (l : List α) : (a :: l).countP g = l.countP g + (g a).toNat := by
    rw [List.countP_cons]
    cases g a <;> rfl
  induction l with
  | nil => simp
  | cons a l ih =>
    obtain ⟨ha, hl⟩ := List.forall_mem_cons.mp h
    simp only [one, List.sum_map_add, ih hl, ha]

lemma provides_split (calls : List Call) :
    calls.countP Call.isProvide = calls.countP Call.hasSucceeded + calls.countP Call.hasFailed +
      calls.countP Call.isRunning + calls.countP Call.isCancelled +
      calls.countP Call.hasOverflowed := by
  have h : calls.countP Call.isProvide = ([Call.hasSucceeded, Call.hasFailed, Call.isRunning,
      Call.isCancelled, Call.hasOverflowed].map fun g => calls.countP g).sum := by
    apply countP_split
    rintro ⟨_ | reference, _ | _ | _ | ((_ | _) | _ | _)⟩ - <;> rfl
  simpa [Nat.add_assoc] using h

lemma resolved_split (p : Provider World Client) (calls : List Call) :
    calls.countP (Call.isResolvedProvide p) + calls.countP Call.isPrime =
      calls.countP (Call.isResolved p) := by
  have h : calls.countP (Call.isResolved p) =
      ([Call.isResolvedProvide p, Call.isPrime].map fun g => calls.countP g).sum := by
    apply countP_split
    rintro ⟨_ | reference, phase⟩ -
    · rfl
    · cases hr : Call.isResolved p ⟨.provide reference, phase⟩ <;>
        simp [Call.isResolvedProvide, Call.isPrime, Call.isProvide, Errand.isProvide, hr]
  simpa using h.symm

lemma past_split {calls : List Call} (fits : ∀ call ∈ calls, call.Fits p) :
    calls.countP (Call.isResolved p) = calls.countP (Call.isPast p) + calls.countP Call.isSeeking +
      calls.countP Call.isLost := by
  have h : calls.countP (Call.isResolved p) =
      ([Call.isPast p, Call.isSeeking, Call.isLost].map fun g => calls.countP g).sum := by
    apply countP_split
    intro call hc
    rcases fits call hc with resolved | ⟨reference, error, rfl⟩
    · have apart : call.isSeeking = false ∨ call.isLost = false := by
        obtain ⟨errand, _ | _ | _ | _⟩ := call
        · exact .inr rfl
        · exact .inr rfl
        · exact .inr rfl
        · exact .inl rfl
      rcases apart with h | h <;> simp [Call.isPast, resolved, h]
      · cases call.isLost <;> rfl
      · cases call.isSeeking <;> rfl
    · simp [Call.isPast, Call.isSeeking, Call.isLost, Phase.isSeeking, Phase.isLost]
  simpa [Nat.add_assoc] using h

/-- In every reachable state the counters of logins add up to those that have started, and those of the
identity part to the calls that have got past it. -/
theorem counters_conserved (p : Provider World Client) (seed : TokenCache) (clock : Instant)
    (world : World) (moves : List Move) :
    let s := (ofSeed seed clock world).run p moves
    let t := s.shared.tally
    t.attempts = t.successes + t.failures + .ofNat (s.calls.countP Call.isRunning) +
        .ofNat (s.calls.countP Call.isCancelled) + .ofNat (s.calls.countP Call.hasOverflowed) ∧
      .ofNat (s.calls.countP (Call.isResolvedProvide p)) + .ofNat (s.calls.countP Call.isPrime) =
        t.cacheHits + t.identityRefreshes + t.identityRefreshFailures +
          .ofNat (s.calls.countP Call.isSeeking) + .ofNat (s.calls.countP Call.isLost) ∧
      t.cacheHits + t.identityRefreshes + t.identityRefreshFailures =
        .ofNat (s.calls.countP (Call.isPast p)) ∧
      ∀ m, s.CountsOnce p m := by
  intro s t
  have seeded := ofSeed_onErrand (p := p) seed clock world
  have onErrand : s.OnErrand p := run_onErrand seeded moves
  have logins : s.shared.logins = .of s.calls := run_logins p seed clock world moves
  have past : s.shared.side.count.total = .ofNat (s.calls.countP (Call.isPast p)) :=
    run_gauged (fun _ _ _ reports => reports.countsOnce.total) rfl seed clock world moves
  refine ⟨?_, ?_, past, move_countsOnce onErrand⟩
  · have attempts : t.attempts = _ := congrArg LoginCount.attempts logins
    have successes : t.successes = _ := congrArg LoginCount.successes logins
    have failures : t.failures = _ := congrArg LoginCount.failures logins
    rw [attempts, successes, failures]
    simp only [LoginCount.of, provides_split, UInt64.ofNat_add]
  · have total : t.cacheHits + t.identityRefreshes + t.identityRefreshFailures =
        .ofNat (s.calls.countP (Call.isPast p)) := past
    rw [total, ← UInt64.ofNat_add, ← UInt64.ofNat_add, ← UInt64.ofNat_add, resolved_split,
      past_split (run_fits p seed clock world moves)]

end Session

end RegistryLogin
