import RegistryLogin.Proofs.Calls.Polls

/-! Moves of a session, as the guard and the source see them. -/

namespace RegistryLogin

def Progress.standing {α : Type} : Progress α → Standing
  | .suspended phase => phase.standing
  | .finished _ => .away
  | .overflowed _ => .away

def Standing.isAsking : Standing → Bool
  | .asking _ => true
  | _ => false

def IdentitySide.leftBy {World : Type} (call : Nat) (x : IdentitySide World) : IdentitySide World :=
  { x with guard := { x.guard with queue := x.guard.queue.erase call } }

def Move.isCancel : Move → Bool
  | .cancel _ => true
  | _ => false

namespace Provider

variable {World Client : Type} (p : Provider World Client) (call : Nat)

inductive Passage (x : IdentitySide World) : Bool → Standing → IdentitySide World → Standing → Prop
  | aside (quits : Bool) (world : World) : Passage x quits .away (x.inWorld world) .away
  | turned (clock : Instant) : Passage x false .away { x with clock := clock } .away
  | sought {job : Job} {favoured : Bool} {a : Standing} {y : IdentitySide World}
      {r : Progress IdentityToken} (h : Sought p call job favoured x a y r) (world : World) :
    Passage x false a (y.inWorld world) r.standing
  | left : Passage x true .queued (x.leftBy call) .away
  | dropped (answer : Delayed (Except Cause Issued)) :
    Passage x true (.asking answer) x.released .away

inductive Dealing (x : IdentitySide World) : Bool → Standing → IdentitySide World → Standing → Prop
  | none {quits : Bool} {a b : Standing} {y : IdentitySide World} (ha : a.isAsking = false)
      (hb : b.isAsking = false) (contacts : y.contacts = x.contacts) (cache : y.cache = x.cache)
      (refreshes : y.refreshes = x.refreshes) : Dealing x quits a y b
  | polls {job : Job} {answer : Delayed (Except Cause Issued)} {y : IdentitySide World}
      {r : Progress IdentityToken} (heard : Heard call job x answer y r) (world : World) :
    Dealing x false (.asking answer) (y.inWorld world) r.standing
  | asks {job : Job} {a : Standing} {y : IdentitySide World} {r : Progress IdentityToken}
      (ha : a.isAsking = false) (free : x.guard.holder = .none) (stale : p.freshFor x = some .none)
      (heard : Heard call job (p.asked call (x.takenBy call)) (p.answerIn x.world) y r)
      (world : World) : Dealing x false a (y.inWorld world) r.standing
  | drops (answer : Delayed (Except Cause Issued)) :
    Dealing x true (.asking answer) x.released .away

variable {p call}

lemma Heard.contacts {x y : IdentitySide World} {job : Job} {answer : Delayed (Except Cause Issued)}
    {r : Progress IdentityToken} (h : Heard call job x answer y r) :
    y.contacts = x.contacts ++ [.polled call] := by
  cases h <;> rfl

lemma admits_free {g : Guard} {favoured : Bool} (h : g.admits call favoured = true) :
    g.holder = none := by
  simpa using (Bool.and_eq_true_iff.mp h).1

lemma Renewed.dealing {x y : IdentitySide World} {job : Job} {r : Progress IdentityToken}
    {a : Standing} (h : Renewed p call job (x.takenBy call) y r) (ha : a.isAsking = false)
    (free : x.guard.holder = none) (world : World) :
    p.Dealing call x false a (y.inWorld world) r.standing := by
  cases h with
  | overflowed => exact .none ha rfl rfl rfl rfl
  | reused => exact .none ha rfl rfl rfl rfl
  | asked stale heard => exact .asks ha free stale heard world

lemma Sought.dealing {x y : IdentitySide World} {job : Job} {favoured : Bool} {a : Standing}
    {r : Progress IdentityToken} (h : Sought p call job favoured x a y r) (world : World) :
    p.Dealing call x false a (y.inWorld world) r.standing := by
  cases h with
  | overflowed => exact .none rfl rfl rfl rfl rfl
  | reused => exact .none rfl rfl rfl rfl rfl
  | queued => exact .none rfl rfl rfl rfl rfl
  | entered _ free renewed => exact renewed.dealing rfl (admits_free free) world
  | waited => exact .none rfl rfl rfl rfl rfl
  | admitted free renewed => exact renewed.dealing rfl (admits_free free) world
  | heard heard => exact .polls heard world

lemma Passage.dealing {x y : IdentitySide World} {quits : Bool} {a b : Standing}
    (h : p.Passage call x quits a y b) : p.Dealing call x quits a y b := by
  cases h with
  | aside => exact .none rfl rfl rfl rfl rfl
  | turned => exact .none rfl rfl rfl rfl rfl
  | sought h world => exact h.dealing world
  | left => exact .none rfl rfl rfl rfl rfl
  | dropped answer => exact .drops answer

lemma Answered.standing {host : String} {token : IdentityToken} {now : Instant}
    {answer : Delayed (Except Cause (Option Secret))} {phase : Phase}
    (h : Answered host token now answer phase) : phase.standing = .away := by
  cases h <;> rfl

lemma Connected.standing {host : String} {token : IdentityToken} {now : Instant}
    {world world' : World} {phase : Phase} (h : Connected p host token now world world' phase) :
    phase.standing = .away := by
  cases h with
  | noUrl => rfl
  | noClient => rfl
  | opened _ _ _ answered => exact answered.standing

lemma Concluded.standing {y z : IdentitySide World} {job : Job} {r : Progress IdentityToken}
    {phase : Phase} (h : Concluded p y job r z phase) :
    phase.standing = r.standing ∧ ∃ world, z = y.inWorld world := by
  cases h with
  | suspended => exact ⟨rfl, y.world, rfl⟩
  | overflowed => exact ⟨rfl, y.world, rfl⟩
  | failed => exact ⟨rfl, y.world, rfl⟩
  | primed => exact ⟨rfl, y.world, rfl⟩
  | connected h => exact ⟨h.standing, _, rfl⟩

lemma Started.passage {favoured : Bool} {errand : Errand} {x z : IdentitySide World} {phase : Phase}
    (h : Started p call favoured errand x z phase) :
    Passage p call x false .away z phase.standing := by
  cases h with
  | unresolved => exact .aside false x.world
  | sought _ sought concluded =>
    obtain ⟨hp, world, rfl⟩ := concluded.standing
    rw [hp]
    exact .sought sought world

lemma Polled.passage {favoured : Bool} {x z : IdentitySide World} {phase phase' : Phase}
    (h : Polled p call favoured x phase z phase') :
    Passage p call x false phase.standing z phase'.standing := by
  cases h with
  | waiting sought concluded =>
    obtain ⟨hp, world, rfl⟩ := concluded.standing
    rw [hp]
    exact .sought sought world
  | refreshing heard concluded =>
    obtain ⟨hp, world, rfl⟩ := concluded.standing
    rw [hp]
    have sought : Sought p call _ favoured x _ _ _ := .heard heard
    exact .sought sought world
  | exchanging answered =>
    rw [answered.standing]
    exact .aside false x.world
  | done => exact .aside false x.world

lemma cancel_waiting (job : Job) (s : Shared World) :
    cancel call (.waiting job) s =
      ({ s with guard := { s.guard with queue := s.guard.queue.erase call } },
        .done (.cancelled .identity)) := by
  cases job <;> rfl

lemma cancel_refreshing (job : Job) (answer : Delayed (Except Cause Issued)) (s : Shared World) :
    cancel call (.refreshing job answer) s = (s.releaseGuard, .done (.cancelled .identity)) := by
  cases job <;> rfl

lemma cancel_passage (phase : Phase) (s : Shared World) :
    Passage p call s.side true phase.standing (cancel call phase s).1.side
      (cancel call phase s).2.standing := by
  cases phase with
  | waiting job =>
    rw [cancel_waiting]
    exact .left
  | refreshing job answer =>
    rw [cancel_refreshing]
    exact .dropped answer
  | exchanging => exact .aside true s.world
  | done => exact .aside true s.world

end Provider

namespace Session

variable {World Client : Type} (p : Provider World Client)

def phaseOf (session : Session World) (id : Nat) : Option Phase :=
  session.calls[id]?.map (·.phase)

def standing (session : Session World) (id : Nat) : Standing :=
  session.calls[id]?.elim .away (·.phase.standing)

lemma standing_eq (session : Session World) (id : Nat) :
    session.standing id = (session.phaseOf id).elim .away Phase.standing := by
  rw [phaseOf, Option.elim_map]
  rfl

def callOf (session : Session World) : Move → Nat
  | .start _ _ => session.calls.length
  | .poll id _ => id
  | .cancel id => id
  | .turn _ => session.calls.length

variable (session : Session World)

lemma onCall_none (f : Phase → Shared World → Shared World × Phase) {id : Nat}
    (h : session.calls[id]? = none) : session.onCall f id = session := by
  simp only [onCall, h]

lemma onCall_some (f : Phase → Shared World → Shared World × Phase) {id : Nat} {call : Call}
    (h : session.calls[id]? = some call) :
    session.onCall f id = ⟨(f call.phase session.shared).1,
      session.calls.set id { call with phase := (f call.phase session.shared).2 }⟩ := by
  simp only [onCall, h]

lemma move_poll {id : Nat} {call : Call} (h : session.calls[id]? = some call) (favoured : Bool) :
    session.move p (.poll id favoured) = ⟨(p.poll id call.phase favoured session.shared).1,
      session.calls.set id { call with phase := (p.poll id call.phase favoured session.shared).2 }⟩ :=
  onCall_some session (p.poll id · favoured) h

lemma move_cancel {id : Nat} {call : Call} (h : session.calls[id]? = some call) :
    session.move p (.cancel id) = ⟨(Provider.cancel id call.phase session.shared).1,
      session.calls.set id { call with phase := (Provider.cancel id call.phase session.shared).2 }⟩ :=
  onCall_some session (Provider.cancel id) h

lemma phaseOf_onCall (f : Phase → Shared World → Shared World × Phase) (id i : Nat) (h : i ≠ id) :
    (session.onCall f id).phaseOf i = session.phaseOf i := by
  cases hc : session.calls[id]? with
  | none => rw [onCall_none session f hc]
  | some call =>
    rw [onCall_some session f hc]
    simp [phaseOf, List.getElem?_set_ne h.symm]

lemma onCall_passage (quits : Bool) {f : Phase → Shared World → Shared World × Phase} {id : Nat}
    (hf : ∀ phase s, p.Passage id s.side quits phase.standing (f phase s).1.side
      (f phase s).2.standing) :
    p.Passage id session.shared.side quits (session.standing id)
      (session.onCall f id).shared.side ((session.onCall f id).standing id) := by
  cases hc : session.calls[id]? with
  | none =>
    have hs : session.standing id = .away := by simp [standing, hc]
    rw [onCall_none session f hc, hs]
    exact .aside quits session.shared.world
  | some call =>
    have hi : id < session.calls.length := (List.getElem?_eq_some_iff.mp hc).1
    have hs : session.standing id = call.phase.standing := by simp [standing, hc]
    rw [onCall_some session f hc, hs]
    simpa [standing, hi] using hf call.phase session.shared

theorem move_passage (m : Move) :
    p.Passage (session.callOf m) session.shared.side m.isCancel (session.standing (session.callOf m))
      (session.move p m).shared.side ((session.move p m).standing (session.callOf m)) := by
  have hn : session.standing session.calls.length = .away := by simp [standing]
  cases m with
  | start errand favoured =>
    have h := (p.start_started session.calls.length favoured errand session.shared).passage
    simp only [callOf, hn]
    simpa [move, standing, Move.isCancel] using h
  | poll id favoured =>
    exact onCall_passage p session false fun phase s => (p.poll_polled id favoured phase s).passage
  | cancel id =>
    exact onCall_passage p session true fun phase s => Provider.cancel_passage phase s
  | turn clock =>
    simp only [callOf, hn]
    have h : (session.move p (.turn clock)).standing session.calls.length = .away := hn
    rw [h]
    exact .turned _

theorem move_phaseOf (m : Move) (i : Nat) (h : i ≠ session.callOf m) :
    (session.move p m).phaseOf i = session.phaseOf i := by
  cases m with
  | start errand favoured =>
    rcases Nat.lt_or_gt_of_ne (show i ≠ session.calls.length from h) with hi | hi
    · simp [move, phaseOf, List.getElem?_append_left hi]
    · simp [move, phaseOf, List.getElem?_eq_none (Nat.le_of_lt hi), List.getElem?_append_right
        (Nat.le_of_lt hi), Nat.sub_ne_zero_of_lt hi]
  | poll id favoured => exact phaseOf_onCall session _ id i h
  | cancel id => exact phaseOf_onCall session _ id i h
  | turn clock => rfl

lemma move_standing (m : Move) (i : Nat) (h : i ≠ session.callOf m) :
    (session.move p m).standing i = session.standing i := by
  rw [standing_eq, standing_eq, move_phaseOf p session m i h]

def ofSeed (seed : TokenCache) (clock : Instant) (world : World) : Session World :=
  .initial (.initial seed clock world)

def questions : List (Nat × IdentityRequest) := session.shared.contacts.filterMap Contact.question?

def Still (session : Session World) : List Move → Prop
  | [] => True
  | m :: moves =>
    (session.move p m).shared.clock = session.shared.clock ∧ (session.move p m).Still moves

lemma run_snoc (moves : List Move) (m : Move) :
    session.run p (moves ++ [m]) = (session.run p moves).move p m := by
  simp [run, List.foldl_append]

def newContacts (m : Move) : List Contact :=
  (session.move p m).shared.contacts.drop session.shared.contacts.length

lemma newContacts_of_append {m : Move} {contacts : List Contact}
    (h : (session.move p m).shared.side.contacts = session.shared.side.contacts ++ contacts) :
    session.newContacts p m = contacts := by
  have hc : (session.move p m).shared.contacts = session.shared.contacts ++ contacts := h
  rw [newContacts, hc, List.drop_left]

lemma newContacts_of_same {m : Move}
    (h : (session.move p m).shared.side.contacts = session.shared.side.contacts) :
    session.newContacts p m = [] :=
  newContacts_of_append p session (h.trans (List.append_nil _).symm)

inductive Deals (m : Move) : Prop
  | none (ha : (session.standing (session.callOf m)).isAsking = false)
      (hb : ((session.move p m).standing (session.callOf m)).isAsking = false)
      (contacts : session.newContacts p m = [])
      (side : (session.move p m).shared.side.contacts = session.shared.side.contacts)
      (cache : (session.move p m).shared.cache = session.shared.cache)
      (refreshes : (session.move p m).shared.tally.identityRefreshes =
        session.shared.tally.identityRefreshes)
  | polls {job : Job} {answer : Delayed (Except Cause Issued)} {y : IdentitySide World}
      {r : Progress IdentityToken} (ha : session.standing (session.callOf m) = .asking answer)
      (stays : m.isCancel = false)
      (contacts : session.newContacts p m = [.polled (session.callOf m)])
      (heard : Provider.Heard (session.callOf m) job session.shared.side answer y r) (world : World)
      (side : (session.move p m).shared.side = y.inWorld world)
  | asks {job : Job} {y : IdentitySide World} {r : Progress IdentityToken}
      (ha : (session.standing (session.callOf m)).isAsking = false) (stays : m.isCancel = false)
      (contacts : session.newContacts p m =
        [.asked (session.callOf m) p.identityRequest, .polled (session.callOf m)])
      (free : session.shared.guard.holder = .none)
      (stale : p.freshFor session.shared.side = some .none)
      (heard : Provider.Heard (session.callOf m) job
        (p.asked (session.callOf m) (session.shared.side.takenBy (session.callOf m)))
        (p.answerIn session.shared.world) y r) (world : World)
      (side : (session.move p m).shared.side = y.inWorld world)
  | drops (answer : Delayed (Except Cause Issued))
      (ha : session.standing (session.callOf m) = .asking answer)
      (hm : m = .cancel (session.callOf m)) (contacts : session.newContacts p m = [])
      (side : (session.move p m).shared.side = session.shared.side.released)

theorem move_deals (m : Move) : session.Deals p m := by
  have hd := (session.move_passage p m).dealing
  generalize ha : session.standing (session.callOf m) = a at hd
  generalize hq : m.isCancel = quits at hd
  generalize hz : (session.move p m).shared.side = z at hd
  generalize hb : (session.move p m).standing (session.callOf m) = b at hd
  cases hd with
  | none ha' hb' contacts cache refreshes =>
    subst hz
    exact .none (ha ▸ ha') (hb ▸ hb') (newContacts_of_same p session contacts) contacts cache refreshes
  | polls heard world =>
    refine .polls ha hq (newContacts_of_append p session ?_) heard world hz
    rw [hz]
    exact heard.contacts
  | asks ha' free stale heard world =>
    refine .asks (ha ▸ ha') hq (newContacts_of_append p session ?_) free stale heard world hz
    rw [hz]
    exact heard.contacts.trans (List.append_assoc session.shared.side.contacts [_] [_])
  | drops answer =>
    refine .drops answer ha ?_ (newContacts_of_same p session ?_) hz
    · cases m with
      | cancel => rfl
      | start => cases hq
      | poll => cases hq
      | turn => cases hq
    · rw [hz]
      rfl

end Session

end RegistryLogin
