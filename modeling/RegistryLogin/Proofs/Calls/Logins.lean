import RegistryLogin.Proofs.Calls.Jobs

namespace RegistryLogin

def Job.isLogin : Job → Bool
  | .warmUp => false
  | .login _ => true

def Errand.isProvide : Errand → Bool
  | .prime => false
  | .provide _ => true

structure LoginCount where
  attempts : UInt64
  successes : UInt64
  failures : UInt64

namespace LoginCount

def attempt (n : LoginCount) : LoginCount := { n with attempts := n.attempts + 1 }

def closed (n : LoginCount) : Phase → LoginCount
  | .done (.returned (.ok _)) => { n with successes := n.successes + 1 }
  | .done (.returned (.error _)) => { n with failures := n.failures + 1 }
  | _ => n

end LoginCount

def Shared.logins {World : Type} (s : Shared World) : LoginCount :=
  ⟨s.tally.attempts, s.tally.successes, s.tally.failures⟩

namespace Provider

variable {World Client α : Type}

structure Inner (s : Shared World) (r : Shared World × Progress α) : Prop where
  logins : r.1.logins = s.logins
  running : ∀ ending, r.2 ≠ .suspended (.done ending)

variable (p : Provider World Client) (call : Nat)

lemma settle_inner (outcome : Except Cause Issued) (s : Shared World) :
    Inner s (settle call outcome s) := by
  cases outcome with
  | error cause => exact ⟨rfl, by simp [settle]⟩
  | ok issued =>
    simp only [settle]
    cases issued.token? s.clock with
    | none => exact ⟨rfl, by simp⟩
    | some token => exact ⟨rfl, by simp⟩

lemma pollSource_inner (job : Job) (answer : Delayed (Except Cause Issued)) (s : Shared World) :
    Inner s (pollSource call job answer s) := by
  obtain ⟨pauses, outcome⟩ := answer
  cases pauses with
  | zero =>
    obtain ⟨hl, hr⟩ := settle_inner call outcome
      (s.inside ⟨call, .identityRefresh⟩ fun s => (s.record call .sourcePolled, ())).1
    exact ⟨hl, hr⟩
  | succ pauses => exact ⟨rfl, by simp [pollSource]⟩

lemma refresh_inner (job : Job) (s : Shared World) : Inner s (p.refresh call job s) := by
  obtain ⟨hl, hr⟩ := pollSource_inner call job (p.answerIn s.world)
    ((((s.record call (.opened .identityRefresh)).record call
      (.counted .identityRefresh .attempt)).record call (.asked p.identityRequest)).inWorld
        (p.collaborators.requestIdentity p.identityRequest s.world).2)
  exact ⟨hl, hr⟩

lemma renew_inner (job : Job) (s : Shared World) : Inner s (p.renew call job s) := by
  unfold renew
  cases p.fresh? s with
  | none => exact ⟨rfl, by simp⟩
  | some found =>
    cases found with
    | none => exact p.refresh_inner call job s
    | some token => exact ⟨rfl, by simp⟩

lemma renew_taken_inner (job : Job) (s : Shared World) :
    Inner s (p.renew call job (s.takeGuard call)) := by
  obtain ⟨hl, hr⟩ := p.renew_inner call job (s.takeGuard call)
  exact ⟨hl, hr⟩

variable (favoured : Bool)

lemma seek_inner (job : Job) (s : Shared World) : Inner s (p.seek call job favoured s) := by
  unfold seek
  cases p.fresh? s with
  | none => exact ⟨rfl, by simp⟩
  | some found =>
    cases found with
    | some token => exact ⟨rfl, by simp⟩
    | none =>
      cases s.guard.admits call favoured with
      | false => exact ⟨rfl, by simp⟩
      | true => exact p.renew_taken_inner call job s

lemma await_inner (job : Job) (s : Shared World) : Inner s (p.await call job favoured s) := by
  unfold await
  cases s.guard.admits call favoured with
  | false => exact ⟨rfl, by simp⟩
  | true => exact p.renew_taken_inner call job s

lemma pollExchange_inner (host : String) (token : IdentityToken)
    (answer : Delayed (Except Cause (Option Secret))) (s : Shared World) :
    Inner s (pollExchange call host token answer s) := by
  obtain ⟨pauses, outcome⟩ := answer
  cases pauses with
  | zero => exact ⟨rfl, by simp [pollExchange]⟩
  | succ pauses => exact ⟨rfl, by simp [pollExchange]⟩

lemma connect_inner (host : String) (token : IdentityToken) (s : Shared World) :
    Inner s (p.connect call host token s) := by
  cases hs : serverUrl host with
  | error error =>
    simp only [connect, hs]
    exact ⟨rfl, by simp⟩
  | ok server =>
    rcases ho : p.collaborators.openClient server p.options s.world with ⟨cause | client, world⟩
    · rw [p.connect_noClient call hs ho]
      exact ⟨rfl, by simp⟩
    · rcases hx : p.collaborators.exchange client (p.exchangeRequest host token) world
        with ⟨answer, world'⟩
      rw [p.connect_opened call hs ho hx]
      obtain ⟨hl, hr⟩ := pollExchange_inner call host token answer
        ((((s.record call (.building server p.options)).inWorld world).record call
          (.exchanging (p.exchangeRequest host token))).inWorld world')
      exact ⟨hl, hr⟩

lemma issue_inner (host : String) (token : IdentityToken) (refreshToken : Option Secret)
    (s : Shared World) : Inner s (p.issue call host token refreshToken s) := by
  cases refreshToken with
  | none => exact ⟨rfl, by simp [issue]⟩
  | some secret =>
    simp only [issue]
    split <;> exact ⟨rfl, by simp⟩

lemma concludeExchange_inner (host : String) (token : IdentityToken) {s : Shared World}
    {r : Shared World × Progress (Option Secret)} (h : Inner s r) :
    Inner s (p.concludeExchange call host token r) := by
  obtain ⟨t, r⟩ := r
  rcases r with phase | (error | refreshToken) | stage
  · refine ⟨h.logins, fun ending he => h.running ending ?_⟩
    rw [concludeExchange, Progress.suspended.injEq] at he
    rw [he]
  · exact ⟨h.logins, by simp [concludeExchange]⟩
  · obtain ⟨hl, hr⟩ := p.issue_inner call host token refreshToken
      (t.record call (.counted .registryExchange .success))
    exact ⟨hl.trans h.logins, hr⟩
  · exact ⟨h.logins, by simp [concludeExchange]⟩

lemma inside_inner (span : Span) {f : Shared World → Shared World × Progress α}
    (h : ∀ s, Inner s (f s)) (s : Shared World) : Inner s (s.inside span f) := by
  obtain ⟨hl, hr⟩ := h { s with entered := span :: s.entered }
  exact ⟨hl, hr⟩

lemma exchange_inner (host : String) (token : IdentityToken) (s : Shared World) :
    Inner s (p.exchange call host token s) := by
  obtain ⟨hl, hr⟩ := p.concludeExchange_inner call host token
    (inside_inner ⟨call, .registryExchange⟩ (p.connect_inner call host token)
      ((s.record call (.opened .registryExchange)).record call
        (.counted .registryExchange .attempt)))
  exact ⟨hl, hr⟩

lemma proceed_inner (job : Job) {s : Shared World} {r : Shared World × Progress IdentityToken}
    (h : Inner s r) : Inner s (p.proceed call job r) := by
  obtain ⟨t, r⟩ := r
  rcases r with phase | (error | token) | stage
  · refine ⟨h.logins, fun ending he => h.running ending ?_⟩
    rw [proceed, Progress.suspended.injEq] at he
    rw [he]
  · exact ⟨h.logins, by simp [proceed]⟩
  · cases job with
    | warmUp => exact ⟨h.logins, by simp [proceed]⟩
    | login host =>
      obtain ⟨hl, hr⟩ := p.exchange_inner call host token t
      exact ⟨hl.trans h.logins, hr⟩
  · exact ⟨h.logins, by simp [proceed]⟩

lemma resolve_inner (reference : String) (s : Shared World) :
    Inner s (p.resolve call reference favoured s) := by
  simp only [resolve]
  cases p.collaborators.resolveHost reference with
  | error error => exact ⟨rfl, by simp⟩
  | ok host =>
    obtain ⟨hl, hr⟩ := p.proceed_inner call (.login host)
      (p.seek_inner call favoured (.login host) (s.record call (.resolving reference)))
    exact ⟨hl, hr⟩

lemma closeLogin_logins {s : Shared World} {r : Shared World × Progress Verdict} (h : Inner s r) :
    (closeLogin call r).1.logins = s.logins.closed (closeLogin call r).2 := by
  rw [← h.logins]
  obtain ⟨t, r⟩ := r
  rcases r with phase | (error | verdict) | stage
  · cases phase with
    | done ending => exact absurd rfl (h.running ending)
    | waiting => rfl
    | refreshing => rfl
    | exchanging => rfl
  · rfl
  · rfl
  · rfl

lemma asLogin_logins {f : Shared World → Shared World × Progress Verdict} (h : ∀ s, Inner s (f s))
    (s : Shared World) : (asLogin call f s).1.logins = s.logins.closed (asLogin call f s).2 :=
  closeLogin_logins call (inside_inner _ h s)

lemma asJob_logins (job : Job) {f : Shared World → Shared World × Progress Verdict}
    (h : ∀ s, Inner s (f s)) (s : Shared World) :
    (asJob call job f s).1.logins =
      if job.isLogin then s.logins.closed (asJob call job f s).2 else s.logins := by
  cases job with
  | warmUp => exact (h s).logins
  | login host => exact asLogin_logins call h s

lemma start_logins (errand : Errand) (s : Shared World) :
    (p.start call errand favoured s).1.logins =
      if errand.isProvide then s.logins.attempt.closed (p.start call errand favoured s).2
      else s.logins := by
  cases errand with
  | prime =>
    exact asJob_logins call .warmUp
      (fun s => p.proceed_inner call .warmUp (p.seek_inner call favoured .warmUp s)) s
  | provide reference =>
    exact asLogin_logins call (p.resolve_inner call favoured reference)
      (((s.record call (.opened .provide)).record call (.counted .provide .attempt)).count .attempt)

lemma poll_logins (phase : Phase) (s : Shared World) :
    (p.poll call phase favoured s).1.logins =
      if phase.job?.any Job.isLogin then s.logins.closed (p.poll call phase favoured s).2
      else s.logins := by
  cases phase with
  | waiting job =>
    exact asJob_logins call job
      (fun s => p.proceed_inner call job (p.await_inner call favoured job s)) s
  | refreshing job answer =>
    exact asJob_logins call job
      (fun s => p.proceed_inner call job (pollSource_inner call job answer s)) s
  | exchanging host token answer =>
    exact asLogin_logins call (fun s => p.concludeExchange_inner call host token
      (inside_inner _ (pollExchange_inner call host token answer) s)) s
  | done ending => rfl

lemma cancel_logins (phase : Phase) (s : Shared World) :
    (cancel call phase s).1.logins = s.logins := by
  cases phase with
  | waiting => rw [cancel_waiting]; rfl
  | refreshing => rw [cancel_refreshing]; rfl
  | exchanging => rfl
  | done => rfl

end Provider

namespace Call

def isProvide (call : Call) : Bool := call.errand.isProvide

def hasSucceeded (call : Call) : Bool :=
  call.isProvide && match call.phase with
    | .done (.returned (.ok _)) => true
    | _ => false

def hasFailed (call : Call) : Bool :=
  call.isProvide && match call.phase with
    | .done (.returned (.error _)) => true
    | _ => false

end Call

def LoginCount.of (calls : List Call) : LoginCount :=
  ⟨.ofNat (calls.countP Call.isProvide), .ofNat (calls.countP Call.hasSucceeded),
    .ofNat (calls.countP Call.hasFailed)⟩

namespace Session

variable {World Client : Type} {p : Provider World Client} {s : Session World}

lemma logins_append (calls : List Call) (errand : Errand) (phase : Phase) :
    LoginCount.of (calls ++ [⟨errand, phase⟩]) =
      if errand.isProvide then (LoginCount.of calls).attempt.closed phase else .of calls := by
  cases errand with
  | prime => simp [LoginCount.of, Call.isProvide, Call.hasSucceeded, Call.hasFailed, Errand.isProvide]
  | provide reference =>
    rcases phase with _ | _ | _ | ((_ | _) | _ | _)
    all_goals simp [LoginCount.of, LoginCount.closed, LoginCount.attempt, Call.isProvide,
      Call.hasSucceeded, Call.hasFailed, Errand.isProvide]

lemma countP_isProvide_set {calls : List Call} {i : Nat} {call : Call} (h : calls[i]? = some call)
    (phase : Phase) : (calls.set i { call with phase := phase }).countP Call.isProvide =
      calls.countP Call.isProvide := by
  have hp : Call.isProvide = Errand.isProvide ∘ (·.errand) := rfl
  rw [hp, ← List.countP_map, errands_set h, List.countP_map]

lemma countP_set_of_false {calls : List Call} {i : Nat} {call : Call} (h : calls[i]? = some call)
    {f : Call → Bool} (hf : f call = false) (call' : Call) :
    (calls.set i call').countP f = calls.countP f + if f call' then 1 else 0 := by
  obtain ⟨hi, rfl⟩ := List.getElem?_eq_some_iff.mp h
  rw [List.countP_set hi, hf]
  simp

lemma logins_set {calls : List Call} {i : Nat} {call : Call} (h : calls[i]? = some call)
    {job : Job} (hj : call.phase.job? = some job) (phase : Phase) :
    LoginCount.of (calls.set i { call with phase := phase }) =
      if call.isProvide then (LoginCount.of calls).closed phase else .of calls := by
  have hr : call.hasSucceeded = false ∧ call.hasFailed = false := by
    obtain ⟨errand, _ | _ | _ | _⟩ := call
    · simp [Call.hasSucceeded, Call.hasFailed]
    · simp [Call.hasSucceeded, Call.hasFailed]
    · simp [Call.hasSucceeded, Call.hasFailed]
    · cases hj
  rw [LoginCount.of, countP_isProvide_set h, countP_set_of_false h hr.1,
    countP_set_of_false h hr.2]
  cases hp : call.errand.isProvide with
  | false => simp [LoginCount.of, Call.isProvide, Call.hasSucceeded, Call.hasFailed, hp]
  | true =>
    rcases phase with _ | _ | _ | ((_ | _) | _ | _)
    all_goals simp [LoginCount.of, LoginCount.closed, Call.isProvide, Call.hasSucceeded,
      Call.hasFailed, hp]

lemma isLogin_of_jobOf {errand : Errand} {job : Job} (h : p.jobOf errand = .ok job) :
    job.isLogin = errand.isProvide := by
  cases errand with
  | prime =>
    cases h
    rfl
  | provide reference =>
    rw [Provider.jobOf] at h
    cases hr : p.collaborators.resolveHost reference with
    | error => simp [hr, Except.map] at h
    | ok host =>
      rw [hr] at h
      cases h
      rfl

theorem move_logins (hf : s.OnErrand p) (h : s.shared.logins = .of s.calls) (m : Move) :
    (s.move p m).shared.logins = .of (s.move p m).calls := by
  cases m with
  | start errand favoured =>
    have hs := p.start_logins s.calls.length favoured errand s.shared
    rw [h] at hs
    rw [move, logins_append]
    exact hs
  | poll id favoured =>
    rcases s.idle_or_running id with hi | ⟨call, job, hc, hj⟩
    · rw [hi.move_poll]
      exact h
    · have hp := p.poll_logins id favoured call.phase s.shared
      have he : (some job).any Job.isLogin = call.isProvide := isLogin_of_jobOf (hf id call hc job hj)
      rw [h, hj, he] at hp
      rw [move_poll p s hc, logins_set hc hj]
      exact hp
  | cancel id =>
    rcases s.idle_or_running id with hi | ⟨call, job, hc, hj⟩
    · rw [hi.move_cancel]
      exact h
    · rw [move_cancel p s hc, logins_set hc hj]
      refine (Provider.cancel_logins id call.phase s.shared).trans (h.trans ?_)
      obtain ⟨errand, _ | _ | _ | _⟩ := call
      · simp [Provider.cancel, LoginCount.closed]
      · simp [Provider.cancel, LoginCount.closed]
      · simp [Provider.cancel, LoginCount.closed]
      · cases hj
  | turn clock => exact h

lemma run_logins_of (hf : s.OnErrand p) (h : s.shared.logins = .of s.calls) (moves : List Move) :
    (s.run p moves).shared.logins = .of (s.run p moves).calls := by
  induction moves generalizing s with
  | nil => exact h
  | cons m moves ih => exact ih (move_onErrand hf m) (move_logins hf h m)

theorem run_logins (p : Provider World Client) (seed : TokenCache) (clock : Instant) (world : World)
    (moves : List Move) :
    ((ofSeed seed clock world).run p moves).shared.logins =
      .of ((ofSeed seed clock world).run p moves).calls :=
  run_logins_of (fun _ _ hi => by simp [ofSeed, initial] at hi) rfl moves

end Session

end RegistryLogin
