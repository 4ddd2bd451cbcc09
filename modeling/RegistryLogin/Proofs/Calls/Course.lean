import RegistryLogin.Proofs.Calls.IdentitySide

namespace RegistryLogin

def loginEnding (host : String) (token : IdentityToken) (now : Instant) :
    Except Cause (Option Secret) → Ending
  | .error cause => .returned (.error (.registryExchange cause))
  | .ok none => .returned (.error (.missingRefreshToken host))
  | .ok (some secret) =>
    match Credential.earlierExpiry? token.expiresOn now with
    | none => .overflowed .exchange
    | some expiresOn => .returned (.ok (.issued (.ofRefreshToken secret expiresOn)))

namespace Provider

variable {World Client : Type} (p : Provider World Client) (call : Nat)

inductive Answered (host : String) (token : IdentityToken) (now : Instant) :
    Delayed (Except Cause (Option Secret)) → Phase → Prop
  | pending (pauses : Nat) (outcome : Except Cause (Option Secret)) :
    Answered host token now ⟨pauses + 1, outcome⟩ (.exchanging host token ⟨pauses, outcome⟩)
  | settled (outcome : Except Cause (Option Secret)) :
    Answered host token now ⟨0, outcome⟩ (.done (loginEnding host token now outcome))

inductive Connected (host : String) (token : IdentityToken) (now : Instant) (world : World) :
    World → Phase → Prop
  | noUrl {error : Url.Error} (hs : serverUrl host = .error error) :
    Connected host token now world world (.done (.returned (.error (.clientConstruction (.url error)))))
  | noClient {server : Url} {cause : Cause} {world' : World} (hs : serverUrl host = .ok server)
      (ho : p.collaborators.openClient server p.options world = (.error cause, world')) :
    Connected host token now world world' (.done (.returned (.error (.clientConstruction cause))))
  | opened {server : Url} {client : Client} {world' world'' : World}
      {answer : Delayed (Except Cause (Option Secret))} {phase : Phase}
      (hs : serverUrl host = .ok server)
      (ho : p.collaborators.openClient server p.options world = (.ok client, world'))
      (hx : p.collaborators.exchange client (p.exchangeRequest host token) world' = (answer, world''))
      (answered : Answered host token now answer phase) :
    Connected host token now world world'' phase

lemma issue_side (host : String) (token : IdentityToken) (refreshToken : Option Secret)
    (s : Shared World) : (p.issue call host token refreshToken s).1.side = s.side := by
  cases refreshToken with
  | none => rfl
  | some secret =>
    simp only [issue]
    split <;> simp [Event.contact?]

lemma issue_ending (host : String) (token : IdentityToken) (refreshToken : Option Secret)
    (s : Shared World) :
    phaseOf (p.issue call host token refreshToken s).2 =
      .done (loginEnding host token s.clock (.ok refreshToken)) := by
  cases refreshToken with
  | none => rfl
  | some secret =>
    have hc : ((s.record call (.reported p.sink host)).record call (.exchanged host)).clock =
      s.clock := rfl
    simp only [issue, loginEnding, hc]
    cases Credential.earlierExpiry? token.expiresOn s.clock <;> rfl

lemma concludeExchange_side (host : String) (token : IdentityToken)
    (r : Shared World × Progress (Option Secret)) :
    (p.concludeExchange call host token r).1.side = r.1.side := by
  obtain ⟨s, r⟩ := r
  rcases r with phase | (error | refreshToken) | stage
  · rfl
  · simp [concludeExchange, Event.contact?]
  · simp [concludeExchange, issue_side, Event.contact?]
  · rfl

lemma pollExchange_side (host : String) (token : IdentityToken)
    (answer : Delayed (Except Cause (Option Secret))) (s : Shared World) :
    (pollExchange call host token answer s).1.side = s.side := by
  obtain ⟨pauses, outcome⟩ := answer
  cases pauses <;> simp [pollExchange, Event.contact?]

lemma pollExchange_world (host : String) (token : IdentityToken)
    (answer : Delayed (Except Cause (Option Secret))) (s : Shared World) :
    (pollExchange call host token answer s).1.world = s.world :=
  congrArg IdentitySide.world (pollExchange_side call host token answer s)

lemma pollExchange_answered (host : String) (token : IdentityToken)
    (answer : Delayed (Except Cause (Option Secret))) (s t : Shared World) :
    Answered host token t.clock answer
      (phaseOf (p.concludeExchange call host token (t, (pollExchange call host token answer s).2)).2) := by
  obtain ⟨pauses, outcome⟩ := answer
  cases pauses with
  | succ pauses => exact .pending pauses outcome
  | zero =>
    cases outcome with
    | error cause => exact .settled (.error cause)
    | ok refreshToken =>
      change Answered host token t.clock _ (phaseOf (p.issue call host token refreshToken _).2)
      rw [issue_ending]
      exact .settled (.ok refreshToken)

lemma connect_noClient {host : String} {server : Url} (hs : serverUrl host = .ok server)
    {s : Shared World} {cause : Cause} {world : World}
    (ho : p.collaborators.openClient server p.options s.world = (.error cause, world))
    (token : IdentityToken) :
    p.connect call host token s = ((s.record call (.building server p.options)).inWorld world,
      .finished (.error (.clientConstruction cause))) := by
  have hw : (s.record call (.building server p.options)).world = s.world := rfl
  simp only [connect, hs, hw, ho]
  rfl

lemma connect_opened {host : String} {server : Url} (hs : serverUrl host = .ok server)
    {s : Shared World} {client : Client} {token : IdentityToken} {world world' : World}
    {answer : Delayed (Except Cause (Option Secret))}
    (ho : p.collaborators.openClient server p.options s.world = (.ok client, world))
    (hx : p.collaborators.exchange client (p.exchangeRequest host token) world = (answer, world')) :
    p.connect call host token s = pollExchange call host token answer
      ((((s.record call (.building server p.options)).inWorld world).record call
        (.exchanging (p.exchangeRequest host token))).inWorld world') := by
  have hw : (s.record call (.building server p.options)).world = s.world := rfl
  obtain rfl : _ = answer := congrArg Prod.fst hx
  obtain rfl : _ = world' := congrArg Prod.snd hx
  simp only [connect, hs, hw, ho]
  rfl

lemma connect_side (host : String) (token : IdentityToken) (s : Shared World) :
    (p.connect call host token s).1.side =
      s.side.inWorld (p.connect call host token s).1.world := by
  cases hs : serverUrl host with
  | error error =>
    simp only [connect, hs]
    rfl
  | ok server =>
    rcases ho : p.collaborators.openClient server p.options s.world with ⟨cause | client, world⟩
    · rw [p.connect_noClient call hs ho]
      change (Shared.inWorld _ world).side = s.side.inWorld world
      simp [Event.contact?]
    · rcases hx : p.collaborators.exchange client (p.exchangeRequest host token) world
        with ⟨answer, world'⟩
      rw [p.connect_opened call hs ho hx, pollExchange_side, pollExchange_world]
      change (Shared.inWorld _ world').side = s.side.inWorld world'
      simp [Event.contact?, IdentitySide.inWorld]

lemma connect_connected (host : String) (token : IdentityToken) (s t : Shared World) :
    Connected p host token t.clock s.world (p.connect call host token s).1.world
      (phaseOf (p.concludeExchange call host token (t, (p.connect call host token s).2)).2) := by
  cases hs : serverUrl host with
  | error error =>
    simp only [connect, hs]
    exact .noUrl hs
  | ok server =>
    rcases ho : p.collaborators.openClient server p.options s.world with ⟨cause | client, world⟩
    · rw [p.connect_noClient call hs ho]
      exact .noClient hs ho
    · rcases hx : p.collaborators.exchange client (p.exchangeRequest host token) world
        with ⟨answer, world'⟩
      rw [p.connect_opened call hs ho hx, pollExchange_world]
      exact .opened hs ho hx (p.pollExchange_answered call host token answer _ t)

inductive Concluded (y : IdentitySide World) :
    Job → Progress IdentityToken → IdentitySide World → Phase → Prop
  | suspended {job : Job} (phase : Phase) : Concluded y job (.suspended phase) y phase
  | overflowed {job : Job} (stage : Stage) :
    Concluded y job (.overflowed stage) y (.done (.overflowed stage))
  | failed {job : Job} (error : LoginError) :
    Concluded y job (.finished (.error error)) y (.done (.returned (.error error)))
  | primed (token : IdentityToken) :
    Concluded y .warmUp (.finished (.ok token)) y (.done (.returned (.ok .primed)))
  | connected {host : String} {token : IdentityToken} {world : World} {phase : Phase}
      (h : Connected p host token y.clock y.world world phase) :
    Concluded y (.login host) (.finished (.ok token)) (y.inWorld world) phase

lemma exchange_concluded (host : String) (token : IdentityToken) (s : Shared World) :
    Concluded p s.side (.login host) (.finished (.ok token)) (p.exchange call host token s).1.side
      (phaseOf (p.exchange call host token s).2) := by
  let t := (s.record call (.opened .registryExchange)).record call
    (.counted .registryExchange .attempt)
  let u : Shared World := { t with entered := ⟨call, .registryExchange⟩ :: t.entered }
  have hu : u.side = s.side := by
    change t.side = s.side
    simp [t, Event.contact?]
  have hs := p.connect_side call host token u
  have hc := p.connect_connected call host token u
  have he : p.exchange call host token s = p.concludeExchange call host token
    ({ (p.connect call host token u).1 with
        entered := (p.connect call host token u).1.entered.tail },
      (p.connect call host token u).2) := by
    simp only [exchange, Shared.inside, u, t]
  rw [he]
  generalize p.connect call host token u = v at hs hc
  have hv : v.1.side = s.side.inWorld v.1.world := hu ▸ hs
  have hn : v.1.clock = s.side.clock := congrArg IdentitySide.clock hv
  rw [concludeExchange_side]
  change Concluded p s.side (.login host) (.finished (.ok token)) v.1.side _
  rw [hv]
  exact .connected (hn ▸ hc { v.1 with entered := v.1.entered.tail })

lemma proceed_concluded (job : Job) (r : Shared World × Progress IdentityToken) :
    Concluded p r.1.side job r.2 (p.proceed call job r).1.side (phaseOf (p.proceed call job r).2) := by
  obtain ⟨s, r⟩ := r
  rcases r with phase | (error | token) | stage
  · exact .suspended phase
  · exact .failed error
  · cases job with
    | warmUp => exact .primed token
    | login host => exact p.exchange_concluded call host token s
  · exact .overflowed stage

def jobOf (errand : Errand) : Except HostError Job :=
  match errand with
  | .prime => .ok .warmUp
  | .provide reference => (p.collaborators.resolveHost reference).map .login

end Provider

end RegistryLogin
