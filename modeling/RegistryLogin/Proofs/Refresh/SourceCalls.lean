import RegistryLogin.Proofs.Refresh.GuardDiscipline
import Mathlib.Data.List.Chain

/-! The calls of the source in the course of a run, with what became of each. -/

namespace RegistryLogin

inductive Fate
  | pending
  | returned (token : IdentityToken)
  | failed (cause : Cause)
  | panicked
  | cancelled

namespace Fate

def isPending : Fate → Bool
  | pending => true
  | _ => false

def token? : Fate → Option IdentityToken
  | returned token => some token
  | _ => none

lemma eq_returned {fate : Fate} {token : IdentityToken} (h : fate.token? = some token) :
    fate = .returned token := by
  cases fate with
  | pending => cases h
  | returned t => exact congrArg returned (Option.some.inj h)
  | failed => cases h
  | panicked => cases h
  | cancelled => cases h

end Fate

def Delayed.fate (now : Instant) : Delayed (Except Cause Issued) → Fate
  | ⟨_ + 1, _⟩ => .pending
  | ⟨0, .error cause⟩ => .failed cause
  | ⟨0, .ok issued⟩ => (issued.token? now).elim .panicked .returned

structure SourceCall where
  caller : Nat
  decidedAt : Instant
  fate : Fate

namespace SourceCall

def settle (caller : Nat) (fate : Fate) (a : SourceCall) : SourceCall :=
  if a.caller = caller ∧ a.fate.isPending then { a with fate := fate } else a

def isPending (a : SourceCall) : Bool := a.fate.isPending

def latest? (calls : List SourceCall) : Option IdentityToken := calls.findSome? (·.fate.token?)

lemma settle_of_settled {a : SourceCall} (h : a.isPending = false) (caller : Nat) (fate : Fate) :
    a.settle caller fate = a := if_neg fun hs => Bool.false_ne_true (h.symm.trans hs.2)

lemma settle_of_other {a : SourceCall} {caller : Nat} (h : a.caller ≠ caller) (fate : Fate) :
    a.settle caller fate = a := if_neg fun hs => h hs.1

lemma map_settle {calls : List SourceCall} (h : ∀ a ∈ calls, a.isPending = false) (caller : Nat)
    (fate : Fate) : calls.map (settle caller fate) = calls := by
  rw [List.map_congr_left fun a ha => settle_of_settled (h a ha) caller fate, List.map_id']

lemma settle_pending (caller : Nat) (now : Instant) (fate : Fate) :
    settle caller fate ⟨caller, now, .pending⟩ = ⟨caller, now, fate⟩ := if_pos ⟨rfl, rfl⟩

@[simp] lemma settle_decidedAt (caller : Nat) (fate : Fate) (a : SourceCall) :
    (a.settle caller fate).decidedAt = a.decidedAt := by
  unfold settle
  split <;> rfl

def Spent {World Client : Type} (p : Provider World Client) (now : Instant) (a : SourceCall) : Prop :=
  match a.fate with
  | .pending => False
  | .returned token => token.isStaleAt? now p.margin.duration = some true
  | .failed _ => True
  | .panicked => True
  | .cancelled => True

end SourceCall

namespace Session

variable {World Client : Type} (p : Provider World Client) (s : Session World)

def answerTo (call : Nat) : Delayed (Except Cause Issued) :=
  match s.standing call with
  | .asking answer => answer
  | _ => p.answerIn s.shared.world

def returnedIn (m : Move) : Option IdentityToken :=
  (s.newContacts p m).findSome? fun
    | .asked _ _ => none
    | .polled call => ((s.answerTo p call).fate s.shared.clock).token?

def note (calls : List SourceCall) : Contact → List SourceCall
  | .asked call _ => ⟨call, s.shared.clock, .pending⟩ :: calls
  | .polled call => calls.map (.settle call ((s.answerTo p call).fate s.shared.clock))

def withdraw (calls : List SourceCall) : Move → List SourceCall
  | .cancel call => calls.map (.settle call .cancelled)
  | _ => calls

def watch (calls : List SourceCall) (m : Move) : List SourceCall :=
  withdraw ((s.newContacts p m).foldl (s.note p) calls) m

def sourceCallsOn (s : Session World) (calls : List SourceCall) : List Move → List SourceCall
  | [] => calls
  | m :: moves => sourceCallsOn (s.move p m) (s.watch p calls m) moves

def sourceCalls (moves : List Move) : List SourceCall := s.sourceCallsOn p [] moves

end Session

inductive InFlight : Option Nat → List SourceCall → Prop
  | none {calls : List SourceCall} (settled : ∀ a ∈ calls, a.isPending = false) :
    InFlight .none calls
  | one {calls : List SourceCall} (settled : ∀ a ∈ calls, a.isPending = false) (call : Nat)
      (now : Instant) : InFlight (some call) (⟨call, now, .pending⟩ :: calls)

namespace InFlight

variable {holder : Option Nat} {calls : List SourceCall} {call : Nat} {now : Instant}

lemma settled (h : InFlight .none calls) : ∀ a ∈ calls, a.isPending = false := by
  cases h with
  | none settled => exact settled

lemma cons (h : ∀ a ∈ calls, a.isPending = false) (fate : Fate) :
    InFlight (if fate.isPending then some call else .none) (⟨call, now, fate⟩ :: calls) := by
  cases fate with
  | pending => exact .one h call now
  | returned => exact .none (List.forall_mem_cons.mpr ⟨rfl, h⟩)
  | failed => exact .none (List.forall_mem_cons.mpr ⟨rfl, h⟩)
  | panicked => exact .none (List.forall_mem_cons.mpr ⟨rfl, h⟩)
  | cancelled => exact .none (List.forall_mem_cons.mpr ⟨rfl, h⟩)

lemma of_holder (h : InFlight (some call) calls) :
    ∃ now rest, calls = ⟨call, now, .pending⟩ :: rest ∧ ∀ a ∈ rest, a.isPending = false := by
  cases h with
  | one settled call now => exact ⟨now, _, rfl, settled⟩

lemma map_settle (h : InFlight holder calls) (hc : holder ≠ some call) (fate : Fate) :
    calls.map (.settle call fate) = calls := by
  cases h with
  | none settled => exact SourceCall.map_settle settled call fate
  | one settled c now =>
    have hn : c ≠ call := fun h => hc (congrArg some h)
    rw [List.map_cons, SourceCall.map_settle settled, SourceCall.settle_of_other hn]

end InFlight

structure Recorded {World Client : Type} (p : Provider World Client) (seed : TokenCache)
    (x : IdentitySide World) (calls : List SourceCall) : Prop where
  flight : InFlight x.guard.holder calls
  kept : x.cache.current = (SourceCall.latest? calls).or seed.current
  chain : calls.IsChain fun b a => a.Spent p b.decidedAt
  first : ∀ a, calls.getLast? = some a → ∀ token, seed.current = some token →
    token.isStaleAt? a.decidedAt p.margin.duration = some true
  questions : x.contacts.filterMap Contact.question? =
    calls.reverse.map fun a => (a.caller, p.identityRequest)

section Steps

variable {World Client : Type} {p : Provider World Client} {seed : TokenCache}
variable {x y : IdentitySide World} {calls rest : List SourceCall} {call : Nat} {now : Instant}

namespace Recorded

lemma congr (h : Recorded p seed x calls) (holder : y.guard.holder = x.guard.holder)
    (cache : y.cache = x.cache) (contacts : y.contacts = x.contacts) : Recorded p seed y calls :=
  ⟨holder ▸ h.flight, cache ▸ h.kept, h.chain, h.first, contacts ▸ h.questions⟩

lemma settle (h : Recorded p seed x (⟨call, now, .pending⟩ :: rest)) (fate : Fate)
    (holder : y.guard.holder = if fate.isPending then x.guard.holder else none)
    (cache : y.cache.current = fate.token?.or x.cache.current)
    (contacts : y.contacts.filterMap Contact.question? = x.contacts.filterMap Contact.question?) :
    Recorded p seed y (⟨call, now, fate⟩ :: rest) := by
  have hf := h.flight
  generalize hx : x.guard.holder = g at hf
  cases hf with
  | none settled => simpa [SourceCall.isPending, Fate.isPending] using settled _ List.mem_cons_self
  | one settled =>
    refine ⟨?_, ?_, ?_, ?_, ?_⟩
    · rw [holder, hx]
      exact .cons settled fate
    · rw [cache, h.kept]
      cases fate <;> rfl
    · have hc := h.chain
      cases rest with
      | nil => exact .singleton _
      | cons a rest => exact List.isChain_cons_cons.mpr (List.isChain_cons_cons.mp hc)
    · have hl := h.first
      cases rest with
      | nil =>
        intro a ha
        obtain rfl : ⟨call, now, fate⟩ = a := Option.some.inj ha
        exact hl ⟨call, now, .pending⟩ rfl
      | cons a rest => exact hl
    · rw [contacts, h.questions]
      simp

lemma ask (h : Recorded p seed x calls) (free : x.guard.holder = none)
    (stale : p.freshFor x = some none) :
    Recorded p seed (p.asked call (x.takenBy call)) (⟨call, x.clock, .pending⟩ :: calls) := by
  have ht : ∀ token, x.cache.current = some token →
      token.isStaleAt? x.clock p.margin.duration = some true := by
    intro token hc
    rw [Provider.freshFor, TokenCache.freshAt?, hc] at stale
    obtain ⟨b, hb, hs⟩ := Option.map_eq_some_iff.mp stale
    cases b with
    | true => exact hb
    | false => simp at hs
  have settled := (free ▸ h.flight).settled
  refine ⟨.one settled call x.clock, h.kept, ?_, ?_, ?_⟩
  · cases calls with
    | nil => exact .singleton _
    | cons a calls =>
      refine List.isChain_cons_cons.mpr ⟨?_, h.chain⟩
      -- if the call before has returned a token, that is the cached one, which is stale now
      have ha : a.isPending = false := settled a List.mem_cons_self
      have hk := h.kept
      obtain ⟨caller, decidedAt, fate⟩ := a
      cases fate with
      | pending => simp [SourceCall.isPending, Fate.isPending] at ha
      | returned token => exact ht token hk
      | failed => trivial
      | panicked => trivial
      | cancelled => trivial
  · intro a ha token hs
    cases calls with
    | nil =>
      cases ha
      exact ht token (h.kept.trans hs)
    | cons b calls => exact h.first a ha token hs
  · refine (Contact.questions_asked x.contacts call p.identityRequest).trans ?_
    rw [h.questions]
    simp

end Recorded

namespace Provider

variable {job : Job} {answer : Delayed (Except Cause Issued)} {r : Progress IdentityToken}

lemma Heard.holder (h : Heard call job x answer y r) :
    y.guard.holder = if (answer.fate x.clock).isPending then x.guard.holder else none := by
  cases h with
  | pending => rfl
  | failed => rfl
  | panicked issued ht => simp [Delayed.fate, ht, Fate.isPending, IdentitySide.released]
  | returned issued token ht => simp [Delayed.fate, ht, Fate.isPending, IdentitySide.released]

lemma Heard.cache (h : Heard call job x answer y r) :
    y.cache.current = (answer.fate x.clock).token?.or x.cache.current := by
  cases h with
  | pending => rfl
  | failed => rfl
  | panicked issued ht => simp [Delayed.fate, ht, Fate.token?]; rfl
  | returned issued token ht => simp [Delayed.fate, ht, Fate.token?]; rfl

lemma Heard.recorded (h : Heard call job x answer y r)
    (hr : Recorded p seed x (⟨call, now, .pending⟩ :: rest)) :
    Recorded p seed y (⟨call, now, answer.fate x.clock⟩ :: rest) := by
  refine hr.settle _ h.holder h.cache ?_
  rw [h.contacts]
  exact Contact.questions_polled x.contacts call

end Provider

end Steps

namespace Session

variable {World Client : Type} {p : Provider World Client} {seed : TokenCache}
variable {s : Session World} {calls : List SourceCall}

lemma withdraw_settled {holder : Option Nat} (h : InFlight holder calls) {m : Move}
    (hc : m.isCancel = true → holder ≠ some (s.callOf m)) : withdraw calls m = calls := by
  cases m with
  | cancel call => exact h.map_settle (hc rfl) .cancelled
  | start => rfl
  | poll => rfl
  | turn => rfl

lemma withdraw_of_not_cancel {m : Move} (h : m.isCancel = false) : withdraw calls m = calls := by
  cases m with
  | cancel call => simp [Move.isCancel] at h
  | start => rfl
  | poll => rfl
  | turn => rfl

lemma holder_kept (hg : Guarded s.shared.guard s.standing) {m : Move}
    (ha : (s.standing (s.callOf m)).isAsking = false)
    (hb : ((s.move p m).standing (s.callOf m)).isAsking = false) :
    (s.move p m).shared.guard.holder = s.shared.guard.holder := by
  have ht := s.move_guarded p m hg
  apply Option.ext
  intro c
  rw [ht.holder, hg.holder]
  by_cases hc : c = s.callOf m
  · constructor
    · rintro ⟨answer, h⟩
      simp [← hc, h, Standing.isAsking] at hb
    · rintro ⟨answer, h⟩
      simp [← hc, h, Standing.isAsking] at ha
  · rw [s.move_standing p m c hc]

lemma answerTo_asked {call : Nat} (h : (s.standing call).isAsking = false) :
    s.answerTo p call = p.answerIn s.shared.world := by
  rw [answerTo]
  cases ha : s.standing call with
  | away => rfl
  | queued => rfl
  | asking => simp [ha, Standing.isAsking] at h

lemma watch_polls (hg : Guarded s.shared.guard s.standing) {m : Move}
    (h : InFlight s.shared.guard.holder calls) {answer : Delayed (Except Cause Issued)}
    (ha : s.standing (s.callOf m) = .asking answer) (stays : m.isCancel = false)
    (contacts : s.newContacts p m = [.polled (s.callOf m)]) :
    ∃ now rest, calls = ⟨s.callOf m, now, .pending⟩ :: rest ∧
      s.watch p calls m = ⟨s.callOf m, now, answer.fate s.shared.clock⟩ :: rest := by
  have held : s.shared.guard.holder = some (s.callOf m) := (hg.holder _).mpr ⟨answer, ha⟩
  obtain ⟨now, rest, rfl, settled⟩ := (held ▸ h : InFlight (some (s.callOf m)) calls).of_holder
  refine ⟨now, rest, rfl, ?_⟩
  rw [watch, withdraw_of_not_cancel stays, contacts]
  simp only [List.foldl_cons, List.foldl_nil, note, answerTo, ha, List.map_cons,
    SourceCall.settle_pending, SourceCall.map_settle settled]

lemma watch_asks {m : Move} (h : InFlight s.shared.guard.holder calls)
    (ha : (s.standing (s.callOf m)).isAsking = false) (stays : m.isCancel = false)
    (contacts : s.newContacts p m =
      [.asked (s.callOf m) p.identityRequest, .polled (s.callOf m)])
    (free : s.shared.guard.holder = none) :
    s.watch p calls m =
      ⟨s.callOf m, s.shared.clock, (p.answerIn s.shared.world).fate s.shared.clock⟩ :: calls := by
  rw [watch, withdraw_of_not_cancel stays, contacts]
  simp only [List.foldl_cons, List.foldl_nil, note, answerTo_asked ha, List.map_cons,
    SourceCall.settle_pending, SourceCall.map_settle (free ▸ h).settled]

theorem move_recorded (hg : Guarded s.shared.guard s.standing) (m : Move)
    (h : Recorded p seed s.shared.side calls) :
    Recorded p seed (s.move p m).shared.side (s.watch p calls m) := by
  cases s.move_deals p m with
  | none ha hb contacts side cache =>
    have hw : s.watch p calls m = calls := by
      rw [watch, contacts]
      apply withdraw_settled (s := s) h.flight
      intro _ held
      obtain ⟨answer, hs⟩ := (hg.holder _).mp held
      simp [hs, Standing.isAsking] at ha
    rw [hw]
    exact h.congr (holder_kept hg ha hb) cache side
  | @polls job answer y r ha stays contacts heard world side =>
    obtain ⟨now, rest, rfl, hw⟩ := watch_polls hg h.flight ha stays contacts
    rw [hw, side]
    exact (heard.recorded h).congr rfl rfl rfl
  | asks ha stays contacts free stale heard world side =>
    rw [watch_asks h.flight ha stays contacts free, side]
    exact (heard.recorded (h.ask free stale)).congr rfl rfl rfl
  | drops answer ha hm contacts side =>
    have held : s.shared.guard.holder = some (s.callOf m) := (hg.holder _).mpr ⟨answer, ha⟩
    obtain ⟨now, rest, rfl, settled⟩ := (held ▸ h.flight : InFlight (some (s.callOf m)) calls).of_holder
    have hw : s.watch p (⟨s.callOf m, now, .pending⟩ :: rest) m =
        ⟨s.callOf m, now, .cancelled⟩ :: rest := by
      rw [watch, contacts, hm]
      simp only [List.foldl_nil, withdraw, callOf, List.map_cons, SourceCall.settle_pending,
        SourceCall.map_settle settled]
    rw [hw, side]
    exact h.settle .cancelled rfl rfl rfl

lemma returned_recorded (hg : Guarded s.shared.guard s.standing) {m : Move}
    (h : Recorded p seed s.shared.side calls) {token : IdentityToken}
    (hm : s.returnedIn p m = some token) :
    ∃ a ∈ s.watch p calls m, a.caller = s.callOf m ∧ a.fate = .returned token := by
  cases s.move_deals p m with
  | none _ _ contacts => simp [returnedIn, contacts] at hm
  | polls ha stays contacts =>
    obtain ⟨now, rest, rfl, hw⟩ := watch_polls hg h.flight ha stays contacts
    refine ⟨_, hw ▸ List.mem_cons_self, rfl, Fate.eq_returned ?_⟩
    simpa [returnedIn, contacts, answerTo, ha] using hm
  | asks ha stays contacts free =>
    refine ⟨_, watch_asks h.flight ha stays contacts free ▸ List.mem_cons_self, rfl, Fate.eq_returned ?_⟩
    simpa [returnedIn, contacts, answerTo_asked ha] using hm
  | drops _ _ _ contacts => simp [returnedIn, contacts] at hm

lemma sourceCallsOn_append (first second : List Move) :
    s.sourceCallsOn p calls (first ++ second) =
      (s.run p first).sourceCallsOn p (s.sourceCallsOn p calls first) second := by
  induction first generalizing s calls with
  | nil => rfl
  | cons m first ih => exact ih

lemma sourceCalls_snoc (s : Session World) (moves : List Move) (m : Move) :
    s.sourceCalls p (moves ++ [m]) = (s.run p moves).watch p (s.sourceCalls p moves) m :=
  sourceCallsOn_append moves [m]

lemma run_recordedOn (hg : Guarded s.shared.guard s.standing) (moves : List Move)
    (h : Recorded p seed s.shared.side calls) :
    Recorded p seed (s.run p moves).shared.side (s.sourceCallsOn p calls moves) := by
  induction moves generalizing s calls with
  | nil => exact h
  | cons m moves ih => exact ih (s.move_guarded p m hg) (move_recorded hg m h)

theorem run_recorded (p : Provider World Client) (seed : TokenCache) (clock : Instant)
    (world : World) (moves : List Move) :
    Recorded p seed ((ofSeed seed clock world).run p moves).shared.side
      ((ofSeed seed clock world).sourceCalls p moves) := by
  refine run_recordedOn (ofSeed_guarded seed clock world) moves ⟨?_, rfl, .nil, ?_, rfl⟩
  · exact .none (by simp)
  · simp

lemma move_cache (m : Move) :
    (s.move p m).shared.cache.current = (s.returnedIn p m).or s.shared.cache.current := by
  have hc : (s.move p m).shared.cache = (s.move p m).shared.side.cache := rfl
  cases s.move_deals p m with
  | none _ _ contacts _ cache =>
    rw [returnedIn, contacts, cache]
    rfl
  | @polls job answer y r ha _ contacts heard world side =>
    have hr : s.returnedIn p m = (answer.fate s.shared.clock).token? := by
      rw [returnedIn, contacts]
      simp [answerTo, ha]
    rw [hc, side, hr]
    exact heard.cache
  | asks ha _ contacts _ _ heard world side =>
    have hr : s.returnedIn p m = ((p.answerIn s.shared.world).fate s.shared.clock).token? := by
      rw [returnedIn, contacts]
      simp [answerTo_asked ha]
    rw [hc, side, hr]
    exact heard.cache
  | drops _ _ _ contacts side =>
    rw [returnedIn, contacts, hc, side]
    rfl

/-- The cached token is the one that the source has returned last, or the seed if it has returned
none. A move that does not bring a token, however it ends, leaves the cached one as it is. -/
theorem cached_token_latest (p : Provider World Client) (seed : TokenCache) (clock : Instant)
    (world : World) (moves : List Move) :
    let s := (ofSeed seed clock world).run p moves
    s.shared.cache.current =
        (SourceCall.latest? ((ofSeed seed clock world).sourceCalls p moves)).or seed.current ∧
      ∀ m, (s.move p m).shared.cache.current = (s.returnedIn p m).or s.shared.cache.current :=
  ⟨(run_recorded p seed clock world moves).kept, move_cache⟩

end Session

end RegistryLogin
