import RegistryLogin.Proofs.Calls.Phases
import RegistryLogin.Proofs.Refresh.SourceCalls

namespace RegistryLogin

def Ending.credential? : Ending → Option Credential
  | .returned (.ok (.issued credential)) => some credential
  | _ => none

namespace Provider

variable {World Client : Type} (p : Provider World Client) (call : Nat)

inductive Obtained (x : IdentitySide World) (token : IdentityToken) :
    Standing → IdentitySide World → Prop
  | found {a : Standing} {y : IdentitySide World} (ha : a.isAsking = false)
      (fresh : p.freshFor x = some (some token)) (clock : y.clock = x.clock) (cache : y.cache = x.cache)
      (contacts : y.contacts = x.contacts) (world : y.world = x.world) : Obtained x token a y
  | heard {answer : Delayed (Except Cause Issued)} {y : IdentitySide World}
      (fate : answer.fate x.clock = .returned token) (clock : y.clock = x.clock)
      (cache : y.cache = ⟨some token⟩) (contacts : y.contacts = x.contacts ++ [.polled call])
      (world : y.world = x.world) : Obtained x token (.asking answer) y
  | asked {a : Standing} {y : IdentitySide World} (ha : a.isAsking = false)
      (fate : (p.answerIn x.world).fate x.clock = .returned token) (clock : y.clock = x.clock)
      (cache : y.cache = ⟨some token⟩)
      (contacts : y.contacts = x.contacts ++ [.asked call p.identityRequest, .polled call])
      (world : y.world = (p.collaborators.requestIdentity p.identityRequest x.world).2) :
    Obtained x token a y

inductive Pursuit (job : Job) (s : Shared World) (a : Standing) (t : Shared World) (next : Phase) :
    Prop
  | seeks (seeks : next.Seeks job) (requests : t.requests = s.requests)
  | ends {ending : Ending} (phase : next = .done ending) (unpaid : ending.credential? = none)
      (requests : t.requests = s.requests)
  | sends {host : String} {token : IdentityToken} {y : IdentitySide World} {world : World}
      {answer : Delayed (Except Cause (Option Secret))} (hj : job = .login host)
      (obtained : p.Obtained call s.side token a y)
      (negotiated : p.negotiate? host token y.world = some (answer, world))
      (side : t.side = y.inWorld world)
      (requests : t.requests = s.requests ++ [(call, p.exchangeRequest host token)])
      (answered : Answered host token s.clock answer next)

variable {p} {call}

lemma freshFor_current {x : IdentitySide World} {token : IdentityToken}
    (h : p.freshFor x = some (some token)) :
    x.cache.current = some token ∧ token.isStaleAt? x.clock p.margin.duration = some false := by
  rw [freshFor, TokenCache.freshAt?] at h
  cases hc : x.cache.current with
  | none => simp [hc] at h
  | some kept =>
    rw [hc] at h
    obtain ⟨stale, hs, ht⟩ := Option.map_eq_some_iff.mp h
    cases stale with
    | true => cases ht
    | false =>
      obtain rfl : kept = token := Option.some.inj ht
      exact ⟨rfl, hs⟩

lemma Obtained.cached {x y : IdentitySide World} {token : IdentityToken} {a : Standing}
    (h : p.Obtained call x token a y) : y.cache.current = some token := by
  cases h with
  | found _ fresh _ cache =>
    rw [cache]
    exact (freshFor_current fresh).1
  | heard _ _ cache => rw [cache]
  | asked _ _ _ cache => rw [cache]

lemma Obtained.clock {x y : IdentitySide World} {token : IdentityToken} {a : Standing}
    (h : p.Obtained call x token a y) : y.clock = x.clock := by
  cases h with
  | found _ _ clock => exact clock
  | heard _ clock => exact clock
  | asked _ _ clock => exact clock

section

variable {x y : IdentitySide World} {job : Job} {r : Progress IdentityToken} {token : IdentityToken}
variable (hr : r = .finished (.ok token))
include hr

lemma Heard.obtained {answer : Delayed (Except Cause Issued)} (h : Heard call job x answer y r) :
    p.Obtained call x token (.asking answer) y := by
  cases h with
  | pending => cases hr
  | failed => cases hr
  | panicked => cases hr
  | returned issued t ht =>
    cases hr
    exact .heard (by simp [Delayed.fate, ht]) rfl rfl rfl rfl

lemma Renewed.obtained {a : Standing} (ha : a.isAsking = false)
    (h : Renewed p call job (x.takenBy call) y r) : p.Obtained call x token a y := by
  cases h with
  | overflowed => cases hr
  | reused t fresh =>
    cases hr
    exact .found ha fresh rfl rfl rfl rfl
  | asked stale heard =>
    cases heard.obtained (p := p) hr with
    | heard fate clock cache contacts world =>
      exact .asked ha fate clock cache
        (contacts.trans (List.append_assoc x.contacts [_] [_])) world
    | found => contradiction
    | asked => contradiction

lemma Sought.obtained {favoured : Bool} {a : Standing} (h : Sought p call job favoured x a y r) :
    p.Obtained call x token a y := by
  cases h with
  | overflowed => cases hr
  | reused t fresh =>
    cases hr
    exact .found rfl fresh rfl rfl rfl rfl
  | queued => cases hr
  | entered _ _ renewed => exact renewed.obtained hr rfl
  | waited => cases hr
  | admitted _ renewed => exact renewed.obtained hr rfl
  | heard heard => exact heard.obtained hr

end

lemma Connected.negotiated {host : String} {token : IdentityToken} {now : Instant}
    {world world' : World} {next : Phase} (h : Connected p host token now world world' next) :
    (p.negotiate? host token world = none ∧
        ∃ cause, next = .done (.returned (.error (.clientConstruction cause)))) ∨
      ∃ answer, p.negotiate? host token world = some (answer, world') ∧
        Answered host token now answer next := by
  cases h with
  | noUrl hs => exact .inl ⟨by simp [negotiate?, hs], _, rfl⟩
  | noClient hs ho => exact .inl ⟨by simp [negotiate?, hs, ho], _, rfl⟩
  | opened hs ho hx answered => exact .inr ⟨_, by simp [negotiate?, hs, ho, hx], answered⟩

lemma Pursued.pursuit {job : Job} {favoured : Bool} {s t : Shared World} {a : Standing}
    {next : Phase} (h : p.Pursued call job favoured s a t next) : p.Pursuit call job s a t next := by
  obtain ⟨sought, concluded, requests⟩ := h
  generalize ht : t.side = z at concluded
  cases concluded with
  | suspended => exact .seeks (sought.keeps rfl) (by simpa [requestsOf] using requests)
  | overflowed => exact .ends rfl rfl (by simpa [requestsOf] using requests)
  | failed => exact .ends rfl rfl (by simpa [requestsOf] using requests)
  | primed => exact .ends rfl rfl (by simpa [requestsOf] using requests)
  | connected connected =>
    have obtained := sought.obtained rfl
    rcases connected.negotiated with ⟨hn, cause, rfl⟩ | ⟨answer, hn, answered⟩
    · exact .ends rfl rfl (by simpa [requestsOf, hn] using requests)
    · rw [obtained.clock] at answered
      exact .sends rfl obtained hn ht (by simpa [requestsOf, hn] using requests) answered

end Provider

namespace Session

variable {World Client : Type} (p : Provider World Client) (s : Session World)

/-- The world as a registry finds it in a move: the source has been asked first, if it is. -/
def worldMet (m : Move) : World :=
  if s.Asks p m then (p.collaborators.requestIdentity p.identityRequest s.shared.world).2
  else s.shared.world

structure Sends (m : Move) (host : String) (token : IdentityToken)
    (answer : Delayed (Except Cause (Option Secret))) : Prop where
  request : (s.move p m).shared.requests =
    s.shared.requests ++ [(s.callOf m, p.exchangeRequest host token)]
  answered : p.negotiate? host token (s.worldMet p m) = some (answer, (s.move p m).shared.world)

def Tokenless (c : Nat) : Prop := ∀ phase, s.phaseOf c = some phase → ∃ job, phase.Seeks job

inductive Goes (m : Move) : Prop
  | stays (phase : (s.move p m).phaseOf (s.callOf m) = s.phaseOf (s.callOf m))
      (requests : (s.move p m).shared.requests = s.shared.requests)
  | seeks (before : s.Tokenless (s.callOf m)) (after : (s.move p m).Tokenless (s.callOf m))
      (requests : (s.move p m).shared.requests = s.shared.requests)
  | ends {ending : Ending} (phase : (s.move p m).phaseOf (s.callOf m) = some (.done ending))
      (unpaid : ending.credential? = none)
      (requests : (s.move p m).shared.requests = s.shared.requests)
  | sends {host : String} {token : IdentityToken} {y : IdentitySide World}
      {answer : Delayed (Except Cause (Option Secret))} {next : Phase}
      (before : s.Tokenless (s.callOf m)) (sends : s.Sends p m host token answer)
      (obtained : p.Obtained (s.callOf m) s.shared.side token (s.standing (s.callOf m)) y)
      (contacts : (s.move p m).shared.side.contacts = y.contacts)
      (cache : (s.move p m).shared.cache = y.cache)
      (answered : Provider.Answered host token s.shared.clock answer next)
      (phase : (s.move p m).phaseOf (s.callOf m) = some next)
  | hears {host : String} {token : IdentityToken} {next : Phase}
      {answer : Delayed (Except Cause (Option Secret))}
      (before : s.phaseOf (s.callOf m) = some (.exchanging host token answer))
      (answered : Provider.Answered host token s.shared.clock answer next)
      (phase : (s.move p m).phaseOf (s.callOf m) = some next)
      (requests : (s.move p m).shared.requests = s.shared.requests)

lemma worldMet_obtained {m : Move} {token : IdentityToken} {y : IdentitySide World} {a : Standing}
    (h : p.Obtained (s.callOf m) s.shared.side token a y)
    (contacts : (s.move p m).shared.side.contacts = y.contacts) : s.worldMet p m = y.world := by
  cases h with
  | found ha fresh clock cache met world =>
    have hn : ¬ s.Asks p m := by simp [Asks, newContacts_of_same p s (contacts.trans met)]
    rw [worldMet, if_neg hn, world]
    rfl
  | heard fate clock cache met world =>
    have hn : ¬ s.Asks p m := by simp [Asks, newContacts_of_append p s (contacts.trans met)]
    rw [worldMet, if_neg hn, world]
    rfl
  | asked ha fate clock cache met world =>
    have hm : s.Asks p m := newContacts_of_append p s (contacts.trans met)
    rw [worldMet, if_pos hm, world]
    rfl

theorem move_goes (m : Move) : s.Goes p m := by
  cases s.move_fares p m with
  | idle phase quiet => exact .stays phase quiet.requests
  | unresolved phase quiet => exact .ends phase rfl quiet.requests
  | @pursued job favoured next before pursued phase =>
    have tokenless : s.Tokenless (s.callOf m) := fun phase hp => ⟨job, before phase hp⟩
    cases pursued.pursuit with
    | seeks seeks requests =>
      refine .seeks tokenless (fun phase' hp => ⟨job, ?_⟩) requests
      obtain rfl : next = phase' := Option.some.inj (phase.symm.trans hp)
      exact seeks
    | ends next unpaid requests => exact .ends (phase.trans (congrArg some next)) unpaid requests
    | @sends host token y world answer job obtained negotiated side requests answered =>
      have contacts : (s.move p m).shared.side.contacts = y.contacts := by rw [side]; rfl
      have met : s.worldMet p m = y.world := s.worldMet_obtained p obtained contacts
      have left : (s.move p m).shared.world = world := congrArg IdentitySide.world side
      have sends : s.Sends p m host token answer := ⟨requests, by rw [met, left, negotiated]⟩
      exact .sends tokenless sends obtained contacts (congrArg IdentitySide.cache side) answered phase
  | exchanging before answered phase quiet =>
    exact .hears before answered phase quiet.requests
  | cancelled phase quiet => exact .ends phase rfl quiet.requests

end Session

end RegistryLogin
