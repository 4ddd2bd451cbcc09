import Mathlib.Data.List.Forall2
import RegistryLogin.Proofs.Calls.Answers
import RegistryLogin.Proofs.Separation.Keeping

/-! Registries do not reach the identity side. -/

namespace RegistryLogin

variable {World World' Client Client' : Type}

inductive Visit
  | call (errand : Errand)
  | turn (clock : ClockMove)

inductive Visit.Corresponds (p : Provider World Client) (q : Provider World' Client') :
    Visit → Visit → Prop
  | prime : Corresponds p q (.call .prime) (.call .prime)
  | provide {reference reference' : String}
      (h : (p.collaborators.resolveHost reference).isOk = (q.collaborators.resolveHost reference').isOk) :
    Corresponds p q (.call (.provide reference)) (.call (.provide reference'))
  | turn (clock : ClockMove) : Corresponds p q (.turn clock) (.turn clock)

/-- Providers that ask their sources for the same, and as early. -/
structure Provider.Kindred (p : Provider World Client) (q : Provider World' Client') : Prop where
  tenantId : p.tenantId = q.tenantId
  clientId : p.clientId = q.clientId
  margin : p.margin = q.margin

namespace Session

/-- A run with the sessions after its stops. Each call comes to its end before the next one, and the
source answers by the number of questions before. -/
inductive InTurn (p : Provider World Client) (answers : Nat → Except Cause Issued) :
    Session World → List Visit → List (Session World) → Prop
  | nil (s : Session World) : InTurn p answers s [] []
  | call {s t : Session World} {errand : Errand} {visits : List Visit}
      {sessions : List (Session World)} (alone : s.Alone p errand t)
      (answered : t.questions ≠ s.questions →
        (p.answerIn s.shared.world).outcome = answers s.questions.length)
      (rest : InTurn p answers t visits sessions) :
    InTurn p answers s (.call errand :: visits) (t :: sessions)
  | turn {s : Session World} {clock : ClockMove} {visits : List Visit}
      {sessions : List (Session World)}
      (rest : InTurn p answers (s.move p (.turn clock)) visits sessions) :
    InTurn p answers s (.turn clock :: visits) (s.move p (.turn clock) :: sessions)

structure SameIdentity (s : Session World) (s' : Session World') : Prop where
  cache : s.shared.cache = s'.shared.cache
  questions : s.questions = s'.questions
  cacheHits : s.shared.tally.cacheHits = s'.shared.tally.cacheHits
  identityRefreshes : s.shared.tally.identityRefreshes = s'.shared.tally.identityRefreshes
  identityRefreshFailures :
    s.shared.tally.identityRefreshFailures = s'.shared.tally.identityRefreshFailures

structure Abreast (s : Session World) (s' : Session World') : Prop where
  keeping : s.shared.side.keeping = s'.shared.side.keeping
  clock : s.shared.clock = s'.shared.clock
  calls : s.calls.length = s'.calls.length
  free : s.shared.guard = .free
  free' : s'.shared.guard = .free

variable {p : Provider World Client} {q : Provider World' Client'} {s t : Session World}
variable {s' t' : Session World'} {errand errand' : Errand}

lemma Abreast.same (h : s.Abreast s') : s.SameIdentity s' :=
  ⟨congrArg Keeping.cache h.keeping, congrArg Keeping.questions h.keeping,
    congrArg Keeping.hits h.keeping, congrArg Keeping.refreshes h.keeping,
    congrArg Keeping.refreshFailures h.keeping⟩

lemma Alone.length (h : s.Alone p errand t) : t.calls.length = s.calls.length + 1 := by
  simpa using congrArg List.length h.errands

end Session

namespace Keeping

variable {margin : Duration} {request : IdentityRequest} {call : Nat} {now : Instant}

lemma questions_settle (now : Instant) (outcome : Except Cause Issued) (k : Keeping) :
    (k.settle now outcome).questions = k.questions := by
  cases outcome with
  | error cause => rfl
  | ok issued =>
    simp only [settle]
    cases issued.token? now <;> rfl

lemma search_congr {a b : Except Cause Issued} {k : Keeping}
    (h : (k.search margin request call now a).questions ≠ k.questions → a = b) :
    k.search margin request call now a = k.search margin request call now b := by
  unfold search at h ⊢
  split
  · rfl
  · rfl
  · rename_i stale
    have asked : (k.ask call request).questions ≠ k.questions := by simp [ask]
    rw [h (by simpa only [stale, questions_settle] using asked)]

end Keeping

namespace Session

variable {p : Provider World Client} {q : Provider World' Client'} {s t : Session World}
variable {s' t' : Session World'} {errand errand' : Errand} {answers : Nat → Except Cause Issued}

lemma Visit.isOk_jobOf (h : Visit.Corresponds p q (.call errand) (.call errand')) :
    (p.jobOf errand).isOk = (q.jobOf errand').isOk := by
  have map (x : Except HostError String) : (x.map Job.login).isOk = x.isOk := by
    cases x <;> rfl
  cases h with
  | prime => rfl
  | provide h => exact (map _).trans (h.trans (map _).symm)

lemma keepingAfter_answered (h : t.shared.side.keeping = s.keepingAfter p errand)
    (answered : t.questions ≠ s.questions →
      (p.answerIn s.shared.world).outcome = answers s.questions.length) :
    s.keepingAfter p errand =
      if (p.jobOf errand).isOk then s.shared.side.keeping.search p.margin.duration
        p.identityRequest s.calls.length s.shared.clock (answers s.questions.length)
      else s.shared.side.keeping := by
  have questions : t.questions = (s.keepingAfter p errand).questions :=
    congrArg Keeping.questions h
  rw [questions] at answered
  revert answered
  rw [keepingAfter]
  cases p.jobOf errand with
  | error error => exact fun _ => rfl
  | ok job => exact Keeping.search_congr

lemma Abreast.call (h : s.Abreast s') (kindred : p.Kindred q)
    (corresponding : Visit.Corresponds p q (.call errand) (.call errand'))
    (alone : s.Alone p errand t) (alone' : s'.Alone q errand' t')
    (answered : t.questions ≠ s.questions →
      (p.answerIn s.shared.world).outcome = answers s.questions.length)
    (answered' : t'.questions ≠ s'.questions →
      (q.answerIn s'.shared.world).outcome = answers s'.questions.length) : t.Abreast t' := by
  obtain ⟨clock, free, kept⟩ := alone.kept h.free
  obtain ⟨clock', free', kept'⟩ := alone'.kept h.free'
  have request : p.identityRequest = q.identityRequest := by
    simp only [Provider.identityRequest, kindred.tenantId, kindred.clientId]
  refine ⟨?_, by rw [clock, clock', h.clock], by rw [alone.length, alone'.length, h.calls], free, free'⟩
  rw [kept, kept', keepingAfter_answered kept answered, keepingAfter_answered kept' answered',
    Visit.isOk_jobOf corresponding, kindred.margin, request, h.calls, h.clock, h.keeping,
    h.same.questions]

lemma Abreast.turn (p : Provider World Client) (q : Provider World' Client') (h : s.Abreast s')
    (clock : ClockMove) : (s.move p (.turn clock)).Abreast (s'.move q (.turn clock)) :=
  ⟨h.keeping, congrArg clock.next h.clock, h.calls, h.free, h.free'⟩

lemma Abreast.run (kindred : p.Kindred q) {visits visits' : List Visit}
    {sessions : List (Session World)} {sessions' : List (Session World')}
    (run : s.InTurn p answers visits sessions) (run' : s'.InTurn q answers visits' sessions')
    (corresponding : List.Forall₂ (Visit.Corresponds p q) visits visits') (h : s.Abreast s') :
    List.Forall₂ Abreast sessions sessions' := by
  induction run generalizing s' visits' sessions' with
  | nil s =>
    cases corresponding
    cases run'
    exact .nil
  | call alone answered rest ih =>
    cases corresponding with
    | cons visit corresponding =>
      cases run' with
      | call alone' answered' rest' =>
        have next := h.call kindred visit alone alone' answered answered'
        exact .cons next (ih rest' corresponding next)
      | turn => cases visit
  | @turn s clock visits sessions rest ih =>
    cases corresponding with
    | cons visit corresponding =>
      cases run' with
      | call => cases visit
      | turn rest' =>
        cases visit
        have next := h.turn p q clock
        exact .cons next (ih rest' corresponding next)

lemma ofSeed_abreast (seed : TokenCache) (clock : Instant) (world : World) (world' : World') :
    (ofSeed seed clock world).Abreast (ofSeed seed clock world') :=
  ⟨rfl, rfl, rfl, rfl, rfl⟩

/-- From the same seed, and with the same answers of their sources, two providers agree on all that
concerns the identity token after each call, however their registries differ. -/
theorem registries_leave_identity (kindred : p.Kindred q) (answers : Nat → Except Cause Issued)
    (seed : TokenCache) (clock : Instant) {world : World} {world' : World'}
    {visits visits' : List Visit} {sessions : List (Session World)}
    {sessions' : List (Session World')}
    (corresponding : List.Forall₂ (Visit.Corresponds p q) visits visits')
    (run : (ofSeed seed clock world).InTurn p answers visits sessions)
    (run' : (ofSeed seed clock world').InTurn q answers visits' sessions') :
    List.Forall₂ SameIdentity sessions sessions' :=
  (Abreast.run kindred run run' corresponding (ofSeed_abreast seed clock world world')).imp
    fun _ _ => Abreast.same

lemma alone_of_isDone (n : Nat)
    (h : ((s.run p (.start errand false :: polls s.calls.length n)).calls[s.calls.length]?).any
      Call.isDone = true) :
    s.Alone p errand (s.run p (.start errand false :: polls s.calls.length n)) :=
  ⟨n, rfl, by simpa [Option.any_eq_true] using h⟩

theorem registries_leave_identity_refused :
    let p := Answers.numbered.provider
    let q : Provider Nat Unit :=
      { p with
        options := ⟨some 1000, none⟩
        sink := .histogram
        collaborators :=
          { p.collaborators with openClient := fun _ _ asked => (.error (.other "refused"), asked) } }
    let answers (n : Nat) := (Answers.numbered.identity n).outcome
    let visits (host : String) : List Visit :=
      [.call (.provide host), .turn (.advance ⟨7200000000000, by decide, by decide⟩), .call .prime]
    let s : Session Nat := ofSeed .empty ⟨0, .utc, by decide, by decide⟩ 0
    ∃ sessions sessions', s.InTurn p answers (visits "[::1]") sessions ∧
      s.InTurn q answers (visits "[::2]") sessions' ∧
      sessions.map (·.shared.tally.successes) = [1, 1, 1] ∧
      sessions'.map (·.shared.tally.failures) = [1, 1, 1] ∧
      List.Forall₂ SameIdentity sessions sessions' := by
  intro p q answers visits s
  have answered (r : Provider Nat Unit)
      (hr : r.collaborators.requestIdentity = p.collaborators.requestIdentity) (t : Session Nat)
      (h : t.shared.world = t.questions.length) :
      (r.answerIn t.shared.world).outcome = answers t.questions.length := by
    rw [Provider.answerIn, hr, h]
    rfl
  have kindred : p.Kindred q := ⟨rfl, rfl, rfl⟩
  have run : s.InTurn p answers (visits "[::1]") _ :=
    .call (alone_of_isDone 1 (by decide +kernel)) (fun _ => answered p rfl s (by decide +kernel))
      (.turn (.call (alone_of_isDone 0 (by decide +kernel))
        (fun _ => answered p rfl _ (by decide +kernel)) (.nil _)))
  have run' : s.InTurn q answers (visits "[::2]") _ :=
    .call (alone_of_isDone 0 (by decide +kernel)) (fun _ => answered q rfl s (by decide +kernel))
      (.turn (.call (alone_of_isDone 0 (by decide +kernel))
        (fun _ => answered q rfl _ (by decide +kernel)) (.nil _)))
  have corresponding : List.Forall₂ (Visit.Corresponds p q) (visits "[::1]") (visits "[::2]") :=
    .cons (.provide rfl) (.cons (.turn _) (.cons .prime .nil))
  exact ⟨_, _, run, run', by decide +kernel, by decide +kernel,
    registries_leave_identity kindred answers .empty _ corresponding run run'⟩

end Session

end RegistryLogin
