import RegistryLogin.Proofs.Calls.Phases
import RegistryLogin.Proofs.Record.Lines

namespace RegistryLogin

structure SearchCount where
  hits : UInt64
  refreshes : UInt64
  failures : UInt64

def IdentitySide.count {World : Type} (x : IdentitySide World) : SearchCount :=
  ⟨x.hits, x.refreshes, x.refreshFailures⟩

def Job.lines (lead body : List Line) (next : Phase) : Job → List Line
  | .warmUp => lead ++ body
  | .login _ => (lead ++ body).map (.inside .provide) ++ closeLines next

def Errand.opening : Errand → List Line
  | .prime => []
  | .provide _ => [.plain (.opened .provide), .plain (.counted .provide .attempt)]

def Errand.resolving : Errand → List Line
  | .prime => []
  | .provide reference => [.plain (.resolving reference)]

namespace Provider

variable {World Client : Type} (p : Provider World Client) (call : Nat)

inductive Narrated (job : Job) (favoured : Bool) (s : Shared World) (a : Standing)
    (opening lead : List Line) (t : Shared World) (next : Phase) : Prop
  | intro {y : IdentitySide World} {r : Progress IdentityToken} {contacts : List Contact}
      (sought : Sought p call job favoured s.side a y r) (concluded : Concluded p y job r t.side next)
      (met : t.contacts = s.contacts ++ contacts)
      (writes : Writes call s t (opening ++
        job.lines lead (searchLines contacts r ++ p.proceedLines job r y.world next) next))

lemma Concluded.contacts {p : Provider World Client} {y z : IdentitySide World} {job : Job}
    {r : Progress IdentityToken} {phase : Phase} (h : Concluded p y job r z phase) :
    z.contacts = y.contacts := by
  obtain ⟨-, world, rfl⟩ := h.standing
  rfl

inductive Search (job : Job) : Progress IdentityToken → Prop
  | seeks {phase : Phase} (h : phase.Seeks job) : Search job (.suspended phase)
  | overflowed : Search job (.overflowed .identity)
  | refused (cause : Cause) : Search job (.finished (.error (.identityRefresh cause)))
  | obtained (token : IdentityToken) : Search job (.finished (.ok token))

inductive Course (y : IdentitySide World) (next : Phase) : Job → Progress IdentityToken → Prop
  | seeks {job : Job} (h : next.Seeks job) : Course y next job (.suspended next)
  | overflowed {job : Job} (hn : next = .done (.overflowed .identity)) :
    Course y next job (.overflowed .identity)
  | refused {job : Job} (cause : Cause)
      (hn : next = .done (.returned (.error (.identityRefresh cause)))) :
    Course y next job (.finished (.error (.identityRefresh cause)))
  | primed (token : IdentityToken) (hn : next = .done (.returned (.ok .primed))) :
    Course y next .warmUp (.finished (.ok token))
  | connected {host : String} {token : IdentityToken} {world : World}
      (h : Connected p host token y.clock y.world world next) :
    Course y next (.login host) (.finished (.ok token))

section

variable {p} {call} {job : Job} {x y z : IdentitySide World} {r : Progress IdentityToken}

lemma Heard.search {answer : Delayed (Except Cause Issued)} (h : Heard call job x answer y r) :
    Search job r := by
  cases h with
  | pending => exact .seeks rfl
  | failed cause => exact .refused cause
  | panicked => exact .overflowed
  | returned issued token => exact .obtained token

lemma Renewed.search (h : Renewed p call job x y r) : Search job r := by
  cases h with
  | overflowed => exact .overflowed
  | reused token => exact .obtained token
  | asked _ heard => exact heard.search

lemma Sought.search {favoured : Bool} {a : Standing} (h : Sought p call job favoured x a y r) :
    Search job r := by
  cases h with
  | overflowed => exact .overflowed
  | reused token => exact .obtained token
  | queued => exact .seeks rfl
  | entered _ _ renewed => exact renewed.search
  | waited => exact .seeks rfl
  | admitted _ renewed => exact renewed.search
  | heard heard => exact heard.search

lemma Concluded.course {next : Phase} (h : Concluded p y job r z next) (search : Search job r) :
    p.Course y next job r := by
  cases search with
  | seeks seeks =>
    cases h with
    | suspended => exact .seeks seeks
  | overflowed =>
    cases h with
    | overflowed => exact .overflowed rfl
  | refused cause =>
    cases h with
    | failed => exact .refused cause rfl
  | obtained token =>
    cases h with
    | primed => exact .primed token rfl
    | connected connected => exact .connected connected

end

variable (favoured : Bool)

lemma asJob_narrated {job : Job} {a : Standing} {lead : List Line}
    {seek : Shared World → Shared World × Progress IdentityToken}
    (sought : ∀ s, Sought p call job favoured s.side a (seek s).1.side (seek s).2)
    (searches : ∀ s, Searches call lead s (seek s)) (inner : ∀ s, Inner s (seek s))
    (s : Shared World) :
    Narrated p call job favoured s a [] lead
      (asJob call job (fun s => p.proceed call job (seek s)) s).1
      (asJob call job (fun s => p.proceed call job (seek s)) s).2 := by
  cases job with
  | warmUp =>
    obtain ⟨contacts, met, writes⟩ := searches s
    have concluded := p.proceed_concluded call .warmUp (seek s)
    refine .intro (sought s) concluded (concluded.contacts.trans met) ?_
    have proceeds := p.proceed_writes call .warmUp writes
    rw [List.append_assoc] at proceeds
    exact proceeds
  | login host =>
    let u : Shared World := { s with entered := ⟨call, .provide⟩ :: s.entered }
    obtain ⟨contacts, met, writes⟩ := searches u
    obtain ⟨hs, -, hp⟩ := asLogin_eq call (fun s => p.proceed call (.login host) (seek s)) s
    have concluded : Concluded p (seek u).1.side (.login host) (seek u).2
        (asLogin call (fun s => p.proceed call (.login host) (seek s)) s).1.side
        (asLogin call (fun s => p.proceed call (.login host) (seek s)) s).2 := by
      rw [hs, hp]
      exact p.proceed_concluded call (.login host) (seek u)
    refine .intro (sought u) concluded (concluded.contacts.trans met) ?_
    have login := asLogin_writes call (p.proceed_writes call (.login host) writes)
      fun s => p.proceed_inner call (.login host) (inner s)
    rw [List.append_assoc] at login
    exact login

lemma attempt_writes (s : Shared World) (reference : String) :
    Writes call s
      (((s.record call (.opened .provide)).record call (.counted .provide .attempt)).count .attempt)
      (Errand.provide reference).opening := by
  refine ⟨?_, rfl, rfl⟩
  simp [Errand.opening, Line.entry, Line.plain, Shared.record, Shared.count]

lemma start_narrated {errand : Errand} {job : Job} (h : p.jobOf errand = .ok job) (s : Shared World) :
    Narrated p call job favoured s .away errand.opening errand.resolving
      (p.start call errand favoured s).1 (p.start call errand favoured s).2 := by
  cases errand with
  | prime =>
    obtain rfl : Job.warmUp = job := Except.ok.inj h
    exact p.asJob_narrated call favoured (p.seek_sought call .warmUp favoured)
      (p.seek_searches call favoured .warmUp) (p.seek_inner call favoured .warmUp) s
  | provide reference =>
    cases hr : p.collaborators.resolveHost reference with
    | error error => simp [jobOf, hr, Except.map] at h
    | ok host =>
      obtain rfl : Job.login host = job := by simpa [jobOf, hr, Except.map] using h
      have hf : p.resolve call reference favoured = fun s => p.proceed call (.login host)
          (p.seek call (.login host) favoured (s.record call (.resolving reference))) := by
        funext s
        simp only [resolve, hr]
      let t :=
        ((s.record call (.opened .provide)).record call (.counted .provide .attempt)).count .attempt
      have ht : t.side = s.side := (attempt_eq call s).1
      have resolves (s : Shared World) : Searches call (Errand.provide reference).resolving s
          (p.seek call (.login host) favoured (s.record call (.resolving reference))) :=
        (p.seek_searches call favoured (.login host) _).after
          (congrArg IdentitySide.contacts (resolving_eq call reference s).1)
          (.record (.resolving reference) rfl)
      obtain ⟨sought, concluded, met, writes⟩ := p.asJob_narrated call favoured
        (fun s => (resolving_eq call reference s).1 ▸ p.seek_sought call (.login host) favoured _)
        resolves (fun s => ⟨(p.seek_inner call favoured (.login host)
          (s.record call (.resolving reference))).logins, (p.seek_inner call favoured _ _).running⟩) t
      rw [ht] at sought
      rw [show t.contacts = s.contacts from congrArg IdentitySide.contacts ht] at met
      rw [start, hf]
      exact ⟨sought, concluded, met, (attempt_writes call s reference).append writes⟩

lemma start_unresolved_writes {reference : String} {error : HostError}
    (h : p.collaborators.resolveHost reference = .error error) (s : Shared World) :
    Writes call s (p.start call (.provide reference) favoured s).1
      ((Errand.provide reference).opening ++
        ([.plain (.resolving reference)].map (.inside .provide) ++
          [.plain (.counted .provide .failure)])) := by
  have hf : p.resolve call reference favoured = fun s =>
      (s.record call (.resolving reference), .finished (.error (.hostResolution error))) := by
    funext s
    simp only [resolve, h]
  have inner := p.resolve_inner call favoured reference
  rw [start, hf]
  rw [hf] at inner
  exact (attempt_writes call s reference).append
    (asLogin_writes call (.record (.resolving reference) rfl) inner)

lemma poll_waiting_narrated (job : Job) (s : Shared World) :
    Narrated p call job favoured s .queued [] [] (p.poll call (.waiting job) favoured s).1
      (p.poll call (.waiting job) favoured s).2 :=
  p.asJob_narrated call favoured (p.await_sought call job favoured)
    (p.await_searches call favoured job) (p.await_inner call favoured job) s

lemma poll_refreshing_narrated (job : Job) (answer : Delayed (Except Cause Issued))
    (s : Shared World) :
    Narrated p call job favoured s (.asking answer) [] []
      (p.poll call (.refreshing job answer) favoured s).1
      (p.poll call (.refreshing job answer) favoured s).2 :=
  p.asJob_narrated call favoured (fun s => .heard (pollSource_heard call job answer s))
    (pollSource_searches call job answer) (pollSource_inner call job answer) s

def pollExchangeLines (host : String) (next : Phase) : List Line :=
  (⟨[.registryExchange], .exchangePolled⟩ :: p.endLines host next).map (.inside .provide) ++
    closeLines next

lemma poll_exchanging_writes (host : String) (token : IdentityToken)
    (answer : Delayed (Except Cause (Option Secret))) (s : Shared World) :
    Writes call s (p.poll call (.exchanging host token answer) favoured s).1
      (p.pollExchangeLines host (p.poll call (.exchanging host token answer) favoured s).2) := by
  let t : Shared World := { s with entered := ⟨call, .provide⟩ :: s.entered }
  have polled : Writes call t
      (t.inside ⟨call, .registryExchange⟩ (pollExchange call host token answer)).1
      [⟨[.registryExchange], .exchangePolled⟩] :=
    Writes.inside (f := pollExchange call host token answer)
      (pollExchange_writes call host token answer _)
  exact asLogin_writes call
    (p.concludeExchange_writes call host token polled (pollExchange_talk call host token answer _))
    fun s => p.concludeExchange_inner call host token
      (inside_inner _ (pollExchange_inner call host token answer) s)

lemma cancel_writes (phase : Phase) (s : Shared World) : Writes call s (cancel call phase s).1 [] := by
  cases phase with
  | waiting =>
    rw [cancel_waiting]
    exact .nil rfl rfl rfl
  | refreshing =>
    rw [cancel_refreshing]
    exact .nil rfl rfl rfl
  | exchanging => exact .nil rfl rfl rfl
  | done => exact .nil rfl rfl rfl

end Provider

namespace Session

variable {World Client : Type} (p : Provider World Client) (s : Session World)

inductive Origin (m : Move) (errand : Errand) (job : Job) : List Line → List Line → Prop
  | start {favoured : Bool} (hm : m = .start errand favoured) :
    Origin m errand job errand.opening errand.resolving
  | poll {phase : Phase} (before : s.calls[s.callOf m]? = some ⟨errand, phase⟩)
      (seeks : phase.Seeks job) : Origin m errand job [] []

inductive Reports (m : Move) : List Line → Prop
  | idle (still : (s.move p m).calls[s.callOf m]? = s.calls[s.callOf m]?)
      (count : (s.move p m).shared.side.count = s.shared.side.count)
      (contacts : s.newContacts p m = []) : Reports m []
  | unresolved {reference : String} {favoured : Bool} {error : HostError}
      (hm : m = .start (.provide reference) favoured)
      (unresolved : p.collaborators.resolveHost reference = .error error)
      (after : (s.move p m).calls[s.callOf m]? =
        some ⟨.provide reference, .done (.returned (.error (.hostResolution error)))⟩)
      (count : (s.move p m).shared.side.count = s.shared.side.count)
      (contacts : s.newContacts p m = []) :
    Reports m ((Errand.provide reference).opening ++
      ([.plain (.resolving reference)].map (.inside .provide) ++ [.plain (.counted .provide .failure)]))
  | pursued {errand : Errand} {job : Job} {favoured : Bool} {opening lead : List Line}
      {y : IdentitySide World} {r : Progress IdentityToken} {next : Phase}
      (onErrand : p.jobOf errand = .ok job) (origin : s.Origin m errand job opening lead)
      (sought : Provider.Sought p (s.callOf m) job favoured s.shared.side (s.standing (s.callOf m)) y r)
      (concluded : Provider.Concluded p y job r (s.move p m).shared.side next)
      (after : (s.move p m).calls[s.callOf m]? = some ⟨errand, next⟩) :
    Reports m (opening ++ job.lines lead
      (searchLines (s.newContacts p m) r ++ p.proceedLines job r y.world next) next)
  | exchanging {errand : Errand} {host : String} {token : IdentityToken} {next : Phase}
      {answer : Delayed (Except Cause (Option Secret))} (onErrand : p.jobOf errand = .ok (.login host))
      (before : s.calls[s.callOf m]? = some ⟨errand, .exchanging host token answer⟩)
      (answered : Provider.Answered host token s.shared.clock answer next)
      (after : (s.move p m).calls[s.callOf m]? = some ⟨errand, next⟩)
      (side : (s.move p m).shared.side = s.shared.side) : Reports m (p.pollExchangeLines host next)
  | withdrawn {errand : Errand} {job : Job} {phase : Phase} (onErrand : p.jobOf errand = .ok job)
      (before : s.calls[s.callOf m]? = some ⟨errand, phase⟩) (seeks : phase.Seeks job)
      (hm : m = .cancel (s.callOf m))
      (after : (s.move p m).calls[s.callOf m]? = some ⟨errand, .done (.cancelled .identity)⟩)
      (count : (s.move p m).shared.side.count = s.shared.side.count)
      (contacts : s.newContacts p m = []) : Reports m []
  | abandoned {errand : Errand} {host : String} {token : IdentityToken}
      {answer : Delayed (Except Cause (Option Secret))} (onErrand : p.jobOf errand = .ok (.login host))
      (before : s.calls[s.callOf m]? = some ⟨errand, .exchanging host token answer⟩)
      (after : (s.move p m).calls[s.callOf m]? = some ⟨errand, .done (.cancelled .exchange)⟩)
      (side : (s.move p m).shared.side = s.shared.side) : Reports m []

def Written (m : Move) (lines : List Line) : Prop :=
  Writes (s.callOf m) s.shared (s.move p m).shared lines ∧ s.Reports p m lines

variable {p} {s}

lemma pursued_written {m : Move} {errand : Errand} {job : Job} {favoured : Bool}
    {opening lead : List Line} {a : Standing} {next : Phase} (onErrand : p.jobOf errand = .ok job)
    (origin : s.Origin m errand job opening lead) (stands : s.standing (s.callOf m) = a)
    (narrated : p.Narrated (s.callOf m) job favoured s.shared a opening lead
      (s.move p m).shared next)
    (after : (s.move p m).calls[s.callOf m]? = some ⟨errand, next⟩) :
    ∃ lines, s.Written p m lines := by
  obtain ⟨sought, concluded, met, writes⟩ := narrated
  have contacts := newContacts_of_append p s met
  rw [← contacts] at writes
  exact ⟨_, writes, .pursued onErrand origin (stands ▸ sought) concluded after⟩

lemma idle_written {m : Move} (h : s.move p m = s) : ∃ lines, s.Written p m lines := by
  refine ⟨[], ?_, .idle (by rw [h]) (by rw [h]) (newContacts_of_same p s (by rw [h]))⟩
  rw [h]
  exact .nil rfl rfl rfl

variable (p)

lemma start_written (errand : Errand) (favoured : Bool) :
    ∃ lines, s.Written p (.start errand favoured) lines := by
  have after : (s.move p (.start errand favoured)).calls[s.calls.length]? =
      some ⟨errand, (p.start s.calls.length errand favoured s.shared).2⟩ := by
    simp [move]
  cases hj : p.jobOf errand with
  | ok job =>
    have stands : s.standing s.calls.length = .away := by rw [standing_eq, phaseOf_length]; rfl
    exact pursued_written hj (.start rfl) stands
      (p.start_narrated s.calls.length favoured hj s.shared) after
  | error error =>
    obtain ⟨side, -, next⟩ := p.start_unresolved s.calls.length favoured hj s.shared
    cases errand with
    | prime => cases hj
    | provide reference =>
      cases hr : p.collaborators.resolveHost reference with
      | ok host => simp [Provider.jobOf, hr, Except.map] at hj
      | error error' =>
        obtain rfl : error' = error := by simpa [Provider.jobOf, hr, Except.map] using hj
        refine ⟨_, p.start_unresolved_writes s.calls.length favoured hr s.shared,
          .unresolved rfl hr ?_ (congrArg IdentitySide.count side)
            (newContacts_of_same p s (congrArg IdentitySide.contacts side))⟩
        exact after.trans (by rw [next])

lemma poll_written (hf : s.OnErrand p) (id : Nat) (favoured : Bool) :
    ∃ lines, s.Written p (.poll id favoured) lines := by
  rcases s.idle_or_running id with hi | ⟨⟨errand, phase⟩, job, hc, hj⟩
  · exact idle_written (hi.move_poll favoured)
  · have hi : id < s.calls.length := (List.getElem?_eq_some_iff.mp hc).1
    have hm := s.move_poll p hc favoured
    have after : (s.move p (.poll id favoured)).calls[id]? =
        some ⟨errand, (p.poll id phase favoured s.shared).2⟩ := by simp [hm, hi]
    have shared : (s.move p (.poll id favoured)).shared =
        (p.poll id phase favoured s.shared).1 := by rw [hm]
    have stands : s.standing id = phase.standing := by simp [standing, hc]
    have onErrand := hf id _ hc job hj
    cases phase with
    | waiting job =>
      obtain rfl := Option.some.inj hj
      exact pursued_written onErrand (.poll hc rfl) stands
        (shared ▸ p.poll_waiting_narrated id favoured job s.shared) after
    | refreshing job answer =>
      obtain rfl := Option.some.inj hj
      exact pursued_written onErrand (.poll hc rfl) stands
        (shared ▸ p.poll_refreshing_narrated id favoured job answer s.shared) after
    | exchanging host token answer =>
      obtain rfl := Option.some.inj hj
      obtain ⟨side, -, answered⟩ := p.poll_exchanging id favoured host token answer s.shared
      have writes := p.poll_exchanging_writes id favoured host token answer s.shared
      rw [← shared] at side writes
      exact ⟨_, writes, .exchanging onErrand hc answered after side⟩
    | done ending => cases hj

lemma cancel_written (hf : s.OnErrand p) (id : Nat) : ∃ lines, s.Written p (.cancel id) lines := by
  rcases s.idle_or_running id with hi | ⟨⟨errand, phase⟩, job, hc, hj⟩
  · exact idle_written hi.move_cancel
  · have hi : id < s.calls.length := (List.getElem?_eq_some_iff.mp hc).1
    have hm := s.move_cancel p hc
    have after : (s.move p (.cancel id)).calls[id]? =
        some ⟨errand, (Provider.cancel id phase s.shared).2⟩ := by simp [hm, hi]
    have shared : (s.move p (.cancel id)).shared = (Provider.cancel id phase s.shared).1 := by rw [hm]
    have writes := Provider.cancel_writes id phase s.shared
    rw [← shared] at writes
    have onErrand := hf id _ hc job hj
    refine ⟨[], writes, ?_⟩
    cases phase with
    | waiting =>
      rw [Provider.cancel_waiting] at shared
      exact .withdrawn onErrand hc (Option.some.inj hj) rfl after (by rw [shared]; rfl)
        (newContacts_of_same p s (by rw [shared]; rfl))
    | refreshing =>
      rw [Provider.cancel_refreshing] at shared
      exact .withdrawn onErrand hc (Option.some.inj hj) rfl after (by rw [shared]; rfl)
        (newContacts_of_same p s (by rw [shared]; rfl))
    | exchanging =>
      obtain rfl := Option.some.inj hj
      exact .abandoned onErrand hc after (by rw [shared]; rfl)
    | done => cases hj

theorem move_written (hf : s.OnErrand p) (m : Move) : ∃ lines, s.Written p m lines := by
  cases m with
  | start errand favoured => exact start_written p errand favoured
  | poll id favoured => exact poll_written p hf id favoured
  | cancel id => exact cancel_written p hf id
  | turn clock => exact ⟨[], .nil rfl rfl rfl, .idle rfl rfl (newContacts_of_same p s rfl)⟩

end Session

end RegistryLogin
