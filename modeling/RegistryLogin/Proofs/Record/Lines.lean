import RegistryLogin.Proofs.Calls.Logins

/-! What a call writes into the trace from one poll to the next. -/

namespace RegistryLogin

structure Line where
  within : List Flow
  event : Event

namespace Line

def plain (event : Event) : Line := ⟨[], event⟩

def inside (flow : Flow) (l : Line) : Line := { l with within := l.within ++ [flow] }

def entry (call : Nat) (entered : List Span) (l : Line) : Entry :=
  ⟨call, l.within.map (⟨call, ·⟩) ++ entered, l.event⟩

lemma entry_inside (call : Nat) (entered : List Span) (flow : Flow) (l : Line) :
    (l.inside flow).entry call entered = l.entry call (⟨call, flow⟩ :: entered) := by
  simp [entry, inside]

lemma events_inside (flow : Flow) (lines : List Line) :
    (lines.map (inside flow)).map (·.event) = lines.map (·.event) := by
  simp [inside]

end Line

def Event.counts : Event → Tally → Tally
  | .counted .provide .attempt => .attempt
  | .counted .provide .success => .succeed
  | .counted .provide .failure => .fail
  | .counted .identityRefresh .success => .refresh
  | .counted .identityRefresh .failure => .failRefresh
  | _ => id

def Tally.written (t : Tally) : Tally := { t with cacheHits := 0 }

def Tally.noting (t : Tally) (l : Line) : Tally := l.event.counts t

lemma Tally.noting_inside (flow : Flow) (lines : List Line) (t : Tally) :
    (lines.map (Line.inside flow)).foldl noting t = lines.foldl noting t := by
  rw [List.foldl_map]
  rfl

lemma Shared.inside_snd {World α : Type} (s : Shared World) (span : Span)
    (f : Shared World → Shared World × α) :
    (s.inside span f).2 = (f { s with entered := span :: s.entered }).2 := rfl

structure Writes {World : Type} (call : Nat) (s t : Shared World) (lines : List Line) : Prop where
  trace : t.trace = s.trace ++ lines.map (Line.entry call s.entered)
  entered : t.entered = s.entered
  tally : t.tally.written = lines.foldl Tally.noting s.tally.written

namespace Writes

variable {World : Type} {call : Nat} {s t u : Shared World} {lines more : List Line}

lemma nil (trace : t.trace = s.trace) (entered : t.entered = s.entered)
    (tally : t.tally.written = s.tally.written) : Writes call s t [] :=
  ⟨by simp [trace], entered, tally⟩

lemma record (event : Event) (h : event.counts = id) :
    Writes call s (s.record call event) [.plain event] := by
  refine ⟨rfl, rfl, ?_⟩
  simp [Tally.noting, Line.plain, h, Shared.record]

lemma append (h : Writes call s t lines) (h' : Writes call t u more) :
    Writes call s u (lines ++ more) := by
  refine ⟨?_, h'.entered.trans h.entered, ?_⟩
  · rw [h'.trace, h.trace, h.entered]
    simp
  · rw [h'.tally, h.tally, List.foldl_append]

lemma inside {α : Type} {flow : Flow} {f : Shared World → Shared World × α}
    (h : Writes call { s with entered := ⟨call, flow⟩ :: s.entered }
      (f { s with entered := ⟨call, flow⟩ :: s.entered }).1 lines) :
    Writes call s (s.inside ⟨call, flow⟩ f).1 (lines.map (.inside flow)) := by
  refine ⟨?_, ?_, ?_⟩
  · refine h.trace.trans ?_
    simp [Line.entry_inside]
  · change (f _).1.entered.tail = s.entered
    rw [h.entered]
    rfl
  · rw [Tally.noting_inside]
    exact h.tally

end Writes

def Contact.lines : Contact → List Line
  | .asked _ request =>
    [.plain (.opened .identityRefresh), .plain (.counted .identityRefresh .attempt),
      .plain (.asked request)]
  | .polled _ => [⟨[.identityRefresh], .sourcePolled⟩]

def settledLines : Progress IdentityToken → List Line
  | .finished (.ok token) =>
    [.plain (.counted .identityRefresh .success), .plain (.refreshed token.expiresOn)]
  | .finished (.error _) => [.plain (.counted .identityRefresh .failure)]
  | _ => []

def searchLines (contacts : List Contact) (r : Progress IdentityToken) : List Line :=
  contacts.flatMap Contact.lines ++ if contacts.isEmpty then [] else settledLines r

def closeLines : Phase → List Line
  | .done (.returned (.ok _)) => [.plain (.counted .provide .success)]
  | .done (.returned (.error _)) => [.plain (.counted .provide .failure)]
  | _ => []

namespace Provider

variable {World Client : Type} (p : Provider World Client)

def connectLines (host : String) (token : IdentityToken) (world : World) : List Line :=
  match serverUrl host with
  | .error _ => []
  | .ok server => .plain (.building server p.options) ::
    match p.collaborators.openClient server p.options world with
    | (.error _, _) => []
    | (.ok _, _) => [.plain (.exchanging (p.exchangeRequest host token)), .plain .exchangePolled]

def endLines (host : String) : Phase → List Line
  | .done (.returned (.error (.missingRefreshToken _))) =>
    [.plain (.counted .registryExchange .success)]
  | .done (.returned (.error _)) => [.plain (.counted .registryExchange .failure)]
  | .done (.returned (.ok _)) =>
    [.plain (.counted .registryExchange .success), .plain (.reported p.sink host),
      .plain (.exchanged host)]
  | .done (.overflowed _) =>
    [.plain (.counted .registryExchange .success), .plain (.reported p.sink host),
      .plain (.exchanged host)]
  | _ => []

lemma forall_mem_endLines {P : Line → Prop} (host : String) (next : Phase)
    (counted : ∀ outcome, P (.plain (.counted .registryExchange outcome)))
    (reported : P (.plain (.reported p.sink host))) (exchanged : P (.plain (.exchanged host))) :
    ∀ l ∈ p.endLines host next, P l := by
  rcases next with _ | _ | _ | ((error | _) | _ | _)
  case done.returned.error => cases error <;> simp [endLines, counted]
  all_goals simp [endLines, counted, reported, exchanged]

def exchangeLines (host : String) (token : IdentityToken) (world : World) (next : Phase) :
    List Line :=
  [.plain (.opened .registryExchange), .plain (.counted .registryExchange .attempt)] ++
    (p.connectLines host token world).map (.inside .registryExchange) ++ p.endLines host next

def proceedLines (job : Job) (r : Progress IdentityToken) (world : World) (next : Phase) :
    List Line :=
  match job, r with
  | .login host, .finished (.ok token) => p.exchangeLines host token world next
  | _, _ => []

variable (call : Nat)

lemma settle_writes (outcome : Except Cause Issued) (s : Shared World) :
    Writes call s (settle call outcome s).1 (settledLines (settle call outcome s).2) := by
  cases outcome with
  | error cause => exact ⟨rfl, rfl, rfl⟩
  | ok issued =>
    simp only [settle]
    cases issued.token? s.clock with
    | none => exact .nil rfl rfl rfl
    | some token =>
      refine ⟨?_, rfl, rfl⟩
      simp [settledLines, Line.entry, Line.plain, Shared.record, Shared.count, Shared.store,
        Shared.releaseGuard]

lemma pollSource_writes (job : Job) (answer : Delayed (Except Cause Issued)) (s : Shared World) :
    Writes call s (pollSource call job answer s).1
      (⟨[.identityRefresh], .sourcePolled⟩ :: settledLines (pollSource call job answer s).2) := by
  have polled : Writes call s
      (s.inside ⟨call, .identityRefresh⟩ fun s => (s.record call .sourcePolled, ())).1
      [⟨[.identityRefresh], .sourcePolled⟩] :=
    Writes.inside (f := fun s => (s.record call .sourcePolled, ())) (.record .sourcePolled rfl)
  obtain ⟨pauses, outcome⟩ := answer
  cases pauses with
  | succ pauses => exact polled
  | zero => exact polled.append (settle_writes call outcome _)

inductive Searches (lead : List Line) (s : Shared World)
    (found : Shared World × Progress IdentityToken) : Prop
  | intro (contacts : List Contact) (met : found.1.contacts = s.contacts ++ contacts)
      (writes : Writes call s found.1 (lead ++ searchLines contacts found.2))

variable {call} in
lemma Searches.silent {s : Shared World} {found : Shared World × Progress IdentityToken}
    (met : found.1.contacts = s.contacts) (writes : Writes call s found.1 []) :
    Searches call [] s found :=
  ⟨[], by simp [met], by simpa [searchLines] using writes⟩

variable {call} in
lemma Searches.after {lead : List Line} {s t : Shared World}
    {found : Shared World × Progress IdentityToken} (h : Searches call [] t found)
    (met : t.contacts = s.contacts) (writes : Writes call s t lead) : Searches call lead s found := by
  obtain ⟨contacts, met', writes'⟩ := h
  exact ⟨contacts, met ▸ met', writes.append writes'⟩

lemma pollSource_searches (job : Job) (answer : Delayed (Except Cause Issued)) (s : Shared World) :
    Searches call [] s (pollSource call job answer s) :=
  ⟨[.polled call], (pollSource_heard call job answer s).contacts, pollSource_writes call job answer s⟩

lemma refresh_searches (job : Job) (s : Shared World) : Searches call [] s (p.refresh call job s) := by
  let t := (((s.record call (.opened .identityRefresh)).record call
    (.counted .identityRefresh .attempt)).record call (.asked p.identityRequest)).inWorld
      (p.collaborators.requestIdentity p.identityRequest s.world).2
  have asked : Writes call s t (Contact.lines (.asked call p.identityRequest)) := by
    refine ⟨?_, rfl, rfl⟩
    simp [t, Contact.lines, Line.entry, Line.plain, Shared.record, Shared.inWorld]
  refine ⟨[.asked call p.identityRequest, .polled call], ?_, ?_⟩
  · exact (p.refresh_heard call job s).contacts.trans (List.append_assoc s.contacts [_] [_])
  · exact asked.append (pollSource_writes call job (p.answerIn s.world) t)

lemma renew_searches (job : Job) (s : Shared World) : Searches call [] s (p.renew call job s) := by
  unfold renew
  rcases p.fresh? s with _ | _ | token
  · exact .silent rfl (.nil rfl rfl rfl)
  · exact p.refresh_searches call job s
  · exact .silent rfl (.nil rfl rfl rfl)

lemma renew_taken_searches (job : Job) (s : Shared World) :
    Searches call [] s (p.renew call job (s.takeGuard call)) :=
  (p.renew_searches call job (s.takeGuard call)).after rfl (.nil rfl rfl rfl)

variable (favoured : Bool)

lemma seek_searches (job : Job) (s : Shared World) :
    Searches call [] s (p.seek call job favoured s) := by
  unfold seek
  rcases p.fresh? s with _ | _ | token
  · exact .silent rfl (.nil rfl rfl rfl)
  · cases s.guard.admits call favoured with
    | false => exact .silent rfl (.nil rfl rfl rfl)
    | true => exact p.renew_taken_searches call job s
  · exact .silent rfl (.nil rfl rfl rfl)

lemma await_searches (job : Job) (s : Shared World) :
    Searches call [] s (p.await call job favoured s) := by
  unfold await
  cases s.guard.admits call favoured with
  | false => exact .silent rfl (.nil rfl rfl rfl)
  | true => exact p.renew_taken_searches call job s

inductive Talk : Progress (Option Secret) → Prop
  | pending (host : String) (token : IdentityToken)
      (answer : Delayed (Except Cause (Option Secret))) :
    Talk (.suspended (.exchanging host token answer))
  | noClient (cause : Cause) : Talk (.finished (.error (.clientConstruction cause)))
  | refused (cause : Cause) : Talk (.finished (.error (.registryExchange cause)))
  | answered (refreshToken : Option Secret) : Talk (.finished (.ok refreshToken))

lemma pollExchange_talk (host : String) (token : IdentityToken)
    (answer : Delayed (Except Cause (Option Secret))) (s : Shared World) :
    Talk (pollExchange call host token answer s).2 := by
  obtain ⟨pauses, outcome⟩ := answer
  cases pauses with
  | succ pauses => exact .pending host token ⟨pauses, outcome⟩
  | zero =>
    cases outcome with
    | error cause => exact .refused cause
    | ok refreshToken => exact .answered refreshToken

lemma pollExchange_writes (host : String) (token : IdentityToken)
    (answer : Delayed (Except Cause (Option Secret))) (s : Shared World) :
    Writes call s (pollExchange call host token answer s).1 [.plain .exchangePolled] := by
  obtain ⟨pauses, outcome⟩ := answer
  cases pauses <;> exact .record .exchangePolled rfl

lemma connect_talk (host : String) (token : IdentityToken) (s : Shared World) :
    Talk (p.connect call host token s).2 := by
  cases hs : serverUrl host with
  | error error =>
    simp only [connect, hs]
    exact .noClient (.url error)
  | ok server =>
    rcases ho : p.collaborators.openClient server p.options s.world with ⟨cause | client, world⟩
    · rw [p.connect_noClient call hs ho]
      exact .noClient cause
    · rcases hx : p.collaborators.exchange client (p.exchangeRequest host token) world
        with ⟨answer, world'⟩
      rw [p.connect_opened call hs ho hx]
      exact pollExchange_talk call host token answer _

lemma connect_writes (host : String) (token : IdentityToken) (s : Shared World) :
    Writes call s (p.connect call host token s).1 (p.connectLines host token s.world) := by
  cases hs : serverUrl host with
  | error error =>
    simp only [connect, connectLines, hs]
    exact .nil rfl rfl rfl
  | ok server =>
    rcases ho : p.collaborators.openClient server p.options s.world with ⟨cause | client, world⟩
    · rw [p.connect_noClient call hs ho]
      simp only [connectLines, hs, ho]
      exact ⟨rfl, rfl, rfl⟩
    · rcases hx : p.collaborators.exchange client (p.exchangeRequest host token) world
        with ⟨answer, world'⟩
      rw [p.connect_opened call hs ho hx]
      simp only [connectLines, hs, ho]
      let t := (((s.record call (.building server p.options)).inWorld world).record call
        (.exchanging (p.exchangeRequest host token))).inWorld world'
      have sent : Writes call s t [.plain (.building server p.options),
          .plain (.exchanging (p.exchangeRequest host token))] := by
        refine ⟨?_, rfl, rfl⟩
        simp [t, Line.entry, Line.plain, Shared.record, Shared.inWorld]
      exact sent.append (pollExchange_writes call host token answer t)

lemma issue_writes (host : String) (token : IdentityToken) (refreshToken : Option Secret)
    (s : Shared World) :
    Writes call s (p.issue call host token refreshToken (s.record call
        (.counted .registryExchange .success))).1
      (p.endLines host (phaseOf (p.issue call host token refreshToken (s.record call
        (.counted .registryExchange .success))).2)) := by
  have counted : Writes call s (s.record call (.counted .registryExchange .success))
    [.plain (.counted .registryExchange .success)] := .record _ rfl
  cases refreshToken with
  | none => exact counted
  | some secret =>
    generalize s.record call (.counted .registryExchange .success) = t at counted ⊢
    have reported := counted.append ((Writes.record (.reported p.sink host) rfl).append
      (.record (.exchanged host) rfl))
    simp only [issue]
    cases Credential.earlierExpiry? token.expiresOn
      ((t.record call (.reported p.sink host)).record call (.exchanged host)).clock with
    | none => exact reported
    | some expiresOn => exact reported

lemma concludeExchange_writes (host : String) (token : IdentityToken) {s : Shared World}
    {r : Shared World × Progress (Option Secret)} {lines : List Line}
    (h : Writes call s r.1 lines) (talk : Talk r.2) :
    Writes call s (p.concludeExchange call host token r).1
      (lines ++ p.endLines host (phaseOf (p.concludeExchange call host token r).2)) := by
  obtain ⟨t, r⟩ := r
  cases talk with
  | pending => exact h.append (.nil rfl rfl rfl)
  | noClient => exact h.append (.record _ rfl)
  | refused => exact h.append (.record _ rfl)
  | answered refreshToken => exact h.append (p.issue_writes call host token refreshToken t)

lemma exchange_writes (host : String) (token : IdentityToken) (s : Shared World) :
    Writes call s (p.exchange call host token s).1
      (p.exchangeLines host token s.world (phaseOf (p.exchange call host token s).2)) := by
  let t := (s.record call (.opened .registryExchange)).record call
    (.counted .registryExchange .attempt)
  have opened : Writes call s t
      [.plain (.opened .registryExchange), .plain (.counted .registryExchange .attempt)] :=
    (Writes.record _ rfl).append (.record _ rfl)
  let u : Shared World := { t with entered := ⟨call, .registryExchange⟩ :: t.entered }
  have connected : Writes call t (t.inside ⟨call, .registryExchange⟩ (p.connect call host token)).1
      ((p.connectLines host token s.world).map (.inside .registryExchange)) :=
    Writes.inside (f := p.connect call host token) (p.connect_writes call host token u)
  have talk : Talk (t.inside ⟨call, .registryExchange⟩ (p.connect call host token)).2 := by
    rw [Shared.inside_snd]
    exact p.connect_talk call host token u
  exact p.concludeExchange_writes call host token (opened.append connected) talk

lemma proceed_writes (job : Job) {s : Shared World} {r : Shared World × Progress IdentityToken}
    {lines : List Line} (h : Writes call s r.1 lines) :
    Writes call s (p.proceed call job r).1
      (lines ++ p.proceedLines job r.2 r.1.world (phaseOf (p.proceed call job r).2)) := by
  obtain ⟨t, r⟩ := r
  rcases r with phase | (error | token) | stage
  · exact h.append (by cases job <;> exact .nil rfl rfl rfl)
  · exact h.append (by cases job <;> exact .nil rfl rfl rfl)
  · cases job with
    | warmUp => exact h.append (.nil rfl rfl rfl)
    | login host => exact h.append (p.exchange_writes call host token t)
  · exact h.append (by cases job <;> exact .nil rfl rfl rfl)

lemma closeLogin_writes {s : Shared World} {r : Shared World × Progress Verdict} {lines : List Line}
    (h : Writes call s r.1 lines) (running : ∀ ending, r.2 ≠ .suspended (.done ending)) :
    Writes call s (closeLogin call r).1 (lines ++ closeLines (closeLogin call r).2) := by
  obtain ⟨t, r⟩ := r
  rcases r with phase | (error | verdict) | stage
  · cases phase with
    | done ending => exact absurd rfl (running ending)
    | waiting => exact h.append (.nil rfl rfl rfl)
    | refreshing => exact h.append (.nil rfl rfl rfl)
    | exchanging => exact h.append (.nil rfl rfl rfl)
  · exact h.append ⟨rfl, rfl, rfl⟩
  · exact h.append ⟨rfl, rfl, rfl⟩
  · exact h.append (.nil rfl rfl rfl)

lemma asLogin_writes {f : Shared World → Shared World × Progress Verdict} {s : Shared World}
    {lines : List Line}
    (h : Writes call { s with entered := ⟨call, .provide⟩ :: s.entered }
      (f { s with entered := ⟨call, .provide⟩ :: s.entered }).1 lines)
    (inner : ∀ s, Inner s (f s)) :
    Writes call s (asLogin call f s).1
      (lines.map (.inside .provide) ++ closeLines (asLogin call f s).2) :=
  closeLogin_writes call (Writes.inside (f := f) h) (inside_inner ⟨call, .provide⟩ inner s).running

end Provider

end RegistryLogin
