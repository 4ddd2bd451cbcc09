import RegistryLogin.Proofs.Serial.Alone

namespace RegistryLogin

structure Keeping where
  cache : TokenCache
  hits : UInt64
  refreshes : UInt64
  refreshFailures : UInt64
  questions : List (Nat × IdentityRequest)

namespace Keeping

def hit (k : Keeping) : Keeping := { k with hits := k.hits + 1 }

def ask (call : Nat) (request : IdentityRequest) (k : Keeping) : Keeping :=
  { k with questions := k.questions ++ [(call, request)] }

def settle (now : Instant) (outcome : Except Cause Issued) (k : Keeping) : Keeping :=
  match outcome with
  | .error _ => { k with refreshFailures := k.refreshFailures + 1 }
  | .ok issued =>
    match issued.token? now with
    | none => k
    | some token => { k with cache := ⟨some token⟩, refreshes := k.refreshes + 1 }

def search (margin : Duration) (request : IdentityRequest) (call : Nat) (now : Instant)
    (outcome : Except Cause Issued) (k : Keeping) : Keeping :=
  match k.cache.freshAt? now margin with
  | none => k
  | some (some _) => k.hit
  | some none => (k.ask call request).settle now outcome

end Keeping

def IdentitySide.keeping {World : Type} (x : IdentitySide World) : Keeping :=
  ⟨x.cache, x.hits, x.refreshes, x.refreshFailures, x.contacts.filterMap Contact.question?⟩

namespace Provider

variable {World Client : Type} {p : Provider World Client} {call : Nat} {job : Job}
variable {x y z : IdentitySide World} {r : Progress IdentityToken} {phase phase' : Phase}
variable {now : Instant} {k : Keeping}

lemma keeping_polled (x : IdentitySide World) (call : Nat) :
    (x.meet (.polled call)).keeping = x.keeping := by
  simp only [IdentitySide.keeping, IdentitySide.meet, Contact.questions_polled]

lemma keeping_asked (p : Provider World Client) (x : IdentitySide World) (call : Nat) :
    (p.asked call x).keeping = x.keeping.ask call p.identityRequest := by
  simp only [IdentitySide.keeping, asked, IdentitySide.inWorld, IdentitySide.meet,
    Contact.questions_asked, Keeping.ask]

/-- A call without others beside it: it asks the source and holds the guard, or it is past that. What
it will leave behind is settled with the source's answer. -/
inductive Underway (call : Nat) (now : Instant) (k : Keeping) (x : IdentitySide World) : Phase → Prop
  | asking {job : Job} {answer : Delayed (Except Cause Issued)} (clock : x.clock = now)
      (guard : x.guard = ⟨some call, []⟩) (due : x.keeping.settle now answer.outcome = k) :
    Underway call now k x (.refreshing job answer)
  | past {phase : Phase} (away : phase.standing = .away) (clock : x.clock = now)
      (guard : x.guard = .free) (kept : x.keeping = k) : Underway call now k x phase

lemma Underway.left {world : World} (away : phase.standing = .away) (clock : y.clock = now)
    (guard : y.guard = .free) (kept : y.keeping = k) : Underway call now k (y.inWorld world) phase :=
  .past away clock guard kept

lemma Heard.underway {answer : Delayed (Except Cause Issued)} (h : Heard call job x answer y r)
    (guard : x.guard = ⟨some call, []⟩) (concluded : Concluded p y job r z phase) :
    Underway call x.clock (x.keeping.settle x.clock answer.outcome) z phase := by
  have polled : (x.meet (.polled call)).keeping = x.keeping := keeping_polled x call
  have released : (x.meet (.polled call)).released.guard = .free := by
    simp [IdentitySide.released, IdentitySide.meet, guard, Guard.free]
  cases h with
  | pending pauses outcome =>
    cases concluded with
    | suspended => exact .asking rfl guard (by rw [polled])
  | failed cause =>
    obtain ⟨away, world, rfl⟩ := concluded.standing
    refine .left away rfl released ?_
    exact congrArg (fun k : Keeping => { k with refreshFailures := k.refreshFailures + 1 }) polled
  | panicked issued ht =>
    obtain ⟨away, world, rfl⟩ := concluded.standing
    refine .left away rfl released ?_
    simp only [Keeping.settle, ht]
    exact polled
  | returned issued token ht =>
    obtain ⟨away, world, rfl⟩ := concluded.standing
    refine .left away rfl released ?_
    simp only [Keeping.settle, ht]
    exact congrArg (fun k : Keeping => { k with cache := ⟨some token⟩, refreshes := k.refreshes + 1 })
      polled

lemma Renewed.underway (h : Renewed p call job (x.takenBy call) y r) (free : x.guard = .free)
    (stale : p.freshFor x = some none) (concluded : Concluded p y job r z phase) :
    Underway call x.clock ((x.keeping.ask call p.identityRequest).settle x.clock
      (p.answerIn x.world).outcome) z phase := by
  have same : p.freshFor (x.takenBy call) = p.freshFor x := rfl
  cases h with
  | overflowed hf => simp [same, stale] at hf
  | reused token hf => simp [same, stale] at hf
  | asked _ heard =>
    have taken : (x.takenBy call).guard = ⟨some call, []⟩ := by
      simp [IdentitySide.takenBy, free, Guard.free]
    have h := heard.underway taken concluded
    rw [keeping_asked] at h
    exact h

lemma Sought.underway {favoured : Bool} (h : Sought p call job favoured x .away y r)
    (free : x.guard = .free) (concluded : Concluded p y job r z phase) :
    Underway call x.clock (x.keeping.search p.margin.duration p.identityRequest call x.clock
      (p.answerIn x.world).outcome) z phase := by
  have fresh : x.keeping.cache.freshAt? x.clock p.margin.duration = p.freshFor x := rfl
  simp only [Keeping.search, fresh]
  cases h with
  | overflowed hf =>
    obtain ⟨away, world, rfl⟩ := concluded.standing
    simp only [hf]
    exact .left away rfl free rfl
  | reused token hf =>
    obtain ⟨away, world, rfl⟩ := concluded.standing
    simp only [hf]
    exact .left away rfl free rfl
  | queued _ busy => simp [free, Guard.free, Guard.admits] at busy
  | entered hf _ renewed =>
    simp only [hf]
    exact renewed.underway free hf concluded

lemma Polled.underway {favoured : Bool} (h : Polled p call favoured x phase z phase')
    (u : Underway call now k x phase) : Underway call now k z phase' := by
  cases h with
  | waiting =>
    cases u with
    | past away => cases away
  | refreshing heard concluded =>
    cases u with
    | asking clock guard due =>
      have h := heard.underway guard concluded
      rw [clock, due] at h
      exact h
    | past away => cases away
  | exchanging answered =>
    cases u with
    | past _ clock guard kept => exact .past answered.standing clock guard kept
  | done ending => exact u

lemma Underway.done {ending : Ending} (h : Underway call now k x (.done ending)) :
    x.clock = now ∧ x.guard = .free ∧ x.keeping = k := by
  cases h with
  | past _ clock guard kept => exact ⟨clock, guard, kept⟩

end Provider

namespace Session

variable {World Client : Type} {p : Provider World Client} {s t : Session World} {errand : Errand}

def keepingAfter (p : Provider World Client) (s : Session World) (errand : Errand) : Keeping :=
  match p.jobOf errand with
  | .error _ => s.shared.side.keeping
  | .ok _ => s.shared.side.keeping.search p.margin.duration p.identityRequest s.calls.length
      s.shared.clock (p.answerIn s.shared.world).outcome

lemma start_underway (free : s.shared.guard = .free) (errand : Errand) :
    Provider.Underway s.calls.length s.shared.clock (s.keepingAfter p errand)
      (p.start s.calls.length errand false s.shared).1.side
      (p.start s.calls.length errand false s.shared).2 := by
  have h := p.start_started s.calls.length false errand s.shared
  generalize (p.start s.calls.length errand false s.shared).1.side = z at h ⊢
  generalize (p.start s.calls.length errand false s.shared).2 = phase at h ⊢
  rw [keepingAfter]
  cases h with
  | unresolved hj =>
    simp only [hj]
    exact .past rfl rfl free rfl
  | sought hj sought concluded =>
    simp only [hj]
    exact sought.underway free concluded

lemma polls_underway {id : Nat} {now : Instant} {k : Keeping} (n : Nat) {phase : Phase}
    (hc : s.calls[id]? = some ⟨errand, phase⟩)
    (h : Provider.Underway id now k s.shared.side phase) :
    ∃ phase', (s.run p (polls id n)).calls[id]? = some ⟨errand, phase'⟩ ∧
      Provider.Underway id now k (s.run p (polls id n)).shared.side phase' := by
  induction n generalizing s phase with
  | zero => exact ⟨phase, hc, h⟩
  | succ n ih =>
    have hl : id < s.calls.length := (List.getElem?_eq_some_iff.mp hc).1
    have hm := s.move_poll p hc false
    have polled : (s.move p (.poll id false)).calls[id]? =
        some ⟨errand, (p.poll id phase false s.shared).2⟩ := by
      rw [hm, List.getElem?_set_self hl]
    apply ih polled
    rw [hm]
    exact (p.poll_polled id false phase s.shared).underway h

theorem Alone.kept (h : s.Alone p errand t) (free : s.shared.guard = .free) :
    t.shared.clock = s.shared.clock ∧ t.shared.guard = .free ∧
      t.shared.side.keeping = s.keepingAfter p errand := by
  obtain ⟨n, rfl, call, hc, hd⟩ := h
  have started : (s.move p (.start errand false)).calls[s.calls.length]? =
      some ⟨errand, (p.start s.calls.length errand false s.shared).2⟩ := by
    simp [move]
  obtain ⟨phase, hp, underway⟩ := polls_underway n started (start_underway (p := p) free errand)
  obtain rfl : ⟨errand, phase⟩ = call := Option.some.inj (hp.symm.trans hc)
  obtain ⟨ending, rfl⟩ : ∃ ending, phase = .done ending := by
    cases phase with
    | done ending => exact ⟨ending, rfl⟩
    | waiting => cases hd
    | refreshing => cases hd
    | exchanging => cases hd
  exact underway.done

end Session

end RegistryLogin
