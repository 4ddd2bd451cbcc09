import RegistryLogin.Proofs.Calls.Requests

namespace RegistryLogin.Provider

variable {World Client : Type} (p : Provider World Client) (call : Nat)

inductive Pursued (job : Job) (favoured : Bool) (s : Shared World) (a : Standing) (t : Shared World)
    (phase : Phase) : Prop
  | intro {y : IdentitySide World} {r : Progress IdentityToken}
      (sought : Sought p call job favoured s.side a y r) (concluded : Concluded p y job r t.side phase)
      (requests : t.requests = s.requests ++ p.requestsOf call job r y.world)

inductive Started (favoured : Bool) (errand : Errand) (x : IdentitySide World) :
    IdentitySide World → Phase → Prop
  | unresolved {error : HostError} (h : p.jobOf errand = .error error) :
    Started favoured errand x x (.done (.returned (.error (.hostResolution error))))
  | sought {job : Job} {y z : IdentitySide World} {r : Progress IdentityToken} {phase : Phase}
      (h : p.jobOf errand = .ok job) (sought : Sought p call job favoured x .away y r)
      (concluded : Concluded p y job r z phase) : Started favoured errand x z phase

inductive Polled (favoured : Bool) (x : IdentitySide World) :
    Phase → IdentitySide World → Phase → Prop
  | waiting {job : Job} {y z : IdentitySide World} {r : Progress IdentityToken} {phase : Phase}
      (sought : Sought p call job favoured x .queued y r) (concluded : Concluded p y job r z phase) :
    Polled favoured x (.waiting job) z phase
  | refreshing {job : Job} {answer : Delayed (Except Cause Issued)} {y z : IdentitySide World}
      {r : Progress IdentityToken} {phase : Phase} (heard : Heard call job x answer y r)
      (concluded : Concluded p y job r z phase) : Polled favoured x (.refreshing job answer) z phase
  | exchanging {host : String} {token : IdentityToken} {phase : Phase}
      {answer : Delayed (Except Cause (Option Secret))}
      (answered : Answered host token x.clock answer phase) :
    Polled favoured x (.exchanging host token answer) x phase
  | done (ending : Ending) : Polled favoured x (.done ending) x (.done ending)

lemma closeLogin_side (r : Shared World × Progress Verdict) :
    (closeLogin call r).1.side = r.1.side := by
  obtain ⟨s, r⟩ := r
  rcases r with phase | (error | verdict) | stage
  · rfl
  · change ((s.record call (.counted .provide .failure)).count .fail).side = s.side
    simp [Event.contact?]
  · change ((s.record call (.counted .provide .success)).count .succeed).side = s.side
    simp [Event.contact?]
  · rfl

lemma asLogin_eq (f : Shared World → Shared World × Progress Verdict) (s : Shared World) :
    let u : Shared World := { s with entered := ⟨call, .provide⟩ :: s.entered }
    (asLogin call f s).1.side = (f u).1.side ∧ (asLogin call f s).1.requests = (f u).1.requests ∧
      (asLogin call f s).2 = phaseOf (f u).2 :=
  ⟨(closeLogin_side call _).trans (Shared.side_inside _ _ _),
    (closeLogin_requests call _).trans (Shared.requests_inside _ _ _), rfl⟩

variable (favoured : Bool)

lemma asJob_pursued {job : Job} {a : Standing}
    {seek : Shared World → Shared World × Progress IdentityToken}
    (sought : ∀ s, Sought p call job favoured s.side a (seek s).1.side (seek s).2)
    (requests : ∀ s, (seek s).1.requests = s.requests) (s : Shared World) :
    Pursued p call job favoured s a (asJob call job (fun s => p.proceed call job (seek s)) s).1
      (asJob call job (fun s => p.proceed call job (seek s)) s).2 := by
  cases job with
  | warmUp =>
    refine .intro (sought s) (p.proceed_concluded call .warmUp (seek s)) ?_
    rw [← requests s]
    exact p.proceed_requests call .warmUp (seek s)
  | login host =>
    let u : Shared World := { s with entered := ⟨call, .provide⟩ :: s.entered }
    obtain ⟨hs, hr, hp⟩ := asLogin_eq call (fun s => p.proceed call (.login host) (seek s)) s
    refine .intro (y := (seek u).1.side) (r := (seek u).2) (sought u) ?_ ?_
    · simp only [asJob, hs, hp]
      exact p.proceed_concluded call (.login host) (seek u)
    · have hu : (seek u).1.requests = s.requests := requests u
      simp only [asJob, hr]
      rw [← hu]
      exact p.proceed_requests call (.login host) (seek u)

lemma attempt_eq (s : Shared World) :
    let t := ((s.record call (.opened .provide)).record call (.counted .provide .attempt)).count .attempt
    t.side = s.side ∧ t.requests = s.requests := by
  simp [Event.contact?, Event.request?]

lemma resolving_eq (reference : String) (s : Shared World) :
    (s.record call (.resolving reference)).side = s.side ∧
      (s.record call (.resolving reference)).requests = s.requests := by
  simp [Event.contact?, Event.request?]

lemma start_unresolved {errand : Errand} {error : HostError} (h : p.jobOf errand = .error error)
    (s : Shared World) :
    (p.start call errand favoured s).1.side = s.side ∧
      (p.start call errand favoured s).1.requests = s.requests ∧
      (p.start call errand favoured s).2 = .done (.returned (.error (.hostResolution error))) := by
  cases errand with
  | prime => cases h
  | provide reference =>
    cases hr : p.collaborators.resolveHost reference with
    | ok host => simp [jobOf, hr, Except.map] at h
    | error error' =>
      obtain rfl : error' = error := by simpa [jobOf, hr, Except.map] using h
      have hf : p.resolve call reference favoured = fun s =>
          (s.record call (.resolving reference), .finished (.error (.hostResolution error'))) := by
        funext s
        simp only [resolve, hr]
      obtain ⟨hs, hq, hp⟩ := asLogin_eq call (p.resolve call reference favoured)
        (((s.record call (.opened .provide)).record call (.counted .provide .attempt)).count .attempt)
      rw [hf] at hs hq hp
      rw [start, hf]
      exact ⟨hs.trans ((resolving_eq call reference _).1.trans (attempt_eq call s).1),
        hq.trans ((resolving_eq call reference _).2.trans (attempt_eq call s).2), hp⟩

lemma start_pursued {errand : Errand} {job : Job} (h : p.jobOf errand = .ok job) (s : Shared World) :
    Pursued p call job favoured s .away (p.start call errand favoured s).1
      (p.start call errand favoured s).2 := by
  cases errand with
  | prime =>
    obtain rfl : Job.warmUp = job := Except.ok.inj h
    exact p.asJob_pursued call favoured (p.seek_sought call .warmUp favoured)
      (p.seek_requests call favoured .warmUp) s
  | provide reference =>
    cases hr : p.collaborators.resolveHost reference with
    | error error => simp [jobOf, hr, Except.map] at h
    | ok host =>
      obtain rfl : Job.login host = job := by simpa [jobOf, hr, Except.map] using h
      have hf : p.resolve call reference favoured = fun s => p.proceed call (.login host)
          (p.seek call (.login host) favoured (s.record call (.resolving reference))) := by
        funext s
        simp only [resolve, hr]
      obtain ⟨sought, concluded, requests⟩ := p.asJob_pursued call favoured
        (fun s => (resolving_eq call reference s).1 ▸ p.seek_sought call (.login host) favoured _)
        (fun s => (p.seek_requests call favoured (.login host) _).trans
          (resolving_eq call reference s).2)
        (((s.record call (.opened .provide)).record call (.counted .provide .attempt)).count .attempt)
      rw [(attempt_eq call s).1] at sought
      rw [(attempt_eq call s).2] at requests
      rw [start, hf]
      exact ⟨sought, concluded, requests⟩

lemma poll_waiting (job : Job) (s : Shared World) :
    Pursued p call job favoured s .queued (p.poll call (.waiting job) favoured s).1
      (p.poll call (.waiting job) favoured s).2 :=
  p.asJob_pursued call favoured (p.await_sought call job favoured) (p.await_requests call favoured job) s

lemma poll_refreshing (job : Job) (answer : Delayed (Except Cause Issued)) (s : Shared World) :
    Pursued p call job favoured s (.asking answer)
      (p.poll call (.refreshing job answer) favoured s).1
      (p.poll call (.refreshing job answer) favoured s).2 :=
  p.asJob_pursued call favoured (fun s => .heard (pollSource_heard call job answer s))
    (pollSource_requests call job answer) s

lemma poll_exchanging (host : String) (token : IdentityToken)
    (answer : Delayed (Except Cause (Option Secret))) (s : Shared World) :
    (p.poll call (.exchanging host token answer) favoured s).1.side = s.side ∧
      (p.poll call (.exchanging host token answer) favoured s).1.requests = s.requests ∧
      Answered host token s.clock answer (p.poll call (.exchanging host token answer) favoured s).2 := by
  let f (s : Shared World) := p.concludeExchange call host token
    (s.inside ⟨call, .registryExchange⟩ (pollExchange call host token answer))
  let t : Shared World := { s with entered := ⟨call, .provide⟩ :: s.entered }
  let u : Shared World := { t with entered := ⟨call, .registryExchange⟩ :: t.entered }
  obtain ⟨hs, hq, hp⟩ := asLogin_eq call f s
  have hu : (pollExchange call host token answer u).1.side = s.side :=
    pollExchange_side call host token answer u
  have hr : (pollExchange call host token answer u).1.requests = s.requests :=
    pollExchange_requests call host token answer u
  have hc : (pollExchange call host token answer u).1.clock = s.clock :=
    congrArg IdentitySide.clock hu
  have ha : Answered host token _ answer (phaseOf (f t).2) :=
    p.pollExchange_answered call host token answer u
      (t.inside ⟨call, .registryExchange⟩ (pollExchange call host token answer)).1
  exact ⟨hs.trans ((p.concludeExchange_side call host token _).trans hu),
    hq.trans ((p.concludeExchange_requests call host token _).trans hr), hp ▸ (hc ▸ ha :)⟩

theorem start_started (errand : Errand) (s : Shared World) :
    Started p call favoured errand s.side (p.start call errand favoured s).1.side
      (p.start call errand favoured s).2 := by
  cases h : p.jobOf errand with
  | error error =>
    obtain ⟨hs, -, hp⟩ := p.start_unresolved call favoured h s
    rw [hs, hp]
    exact .unresolved h
  | ok job =>
    obtain ⟨sought, concluded, -⟩ := p.start_pursued call favoured h s
    exact .sought h sought concluded

theorem poll_polled (phase : Phase) (s : Shared World) :
    Polled p call favoured s.side phase (p.poll call phase favoured s).1.side
      (p.poll call phase favoured s).2 := by
  cases phase with
  | waiting job =>
    obtain ⟨sought, concluded, -⟩ := p.poll_waiting call favoured job s
    exact .waiting sought concluded
  | refreshing job answer =>
    obtain ⟨sought, concluded, -⟩ := p.poll_refreshing call favoured job answer s
    cases sought with
    | heard heard => exact .refreshing heard concluded
  | exchanging host token answer =>
    obtain ⟨hs, -, answered⟩ := p.poll_exchanging call favoured host token answer s
    rw [hs]
    exact .exchanging answered
  | done ending => exact .done ending

end RegistryLogin.Provider
