import RegistryLogin.Proofs.Refresh.GuardDiscipline
import RegistryLogin.Proofs.Serial.Advance

namespace RegistryLogin

namespace Session

variable {Client : Type} (p : Provider Nat Client) (a : Answers Client) (now : Instant)
variable (stock : Stock)

structure Linear (s : Session Nat) (log : List Served) : Prop where
  guarded : Guarded s.shared.guard s.standing
  onErrand : s.OnErrand p
  ledger : Ledger p a now stock s.shared.side log
  nodup : (log.map (·.call)).Nodup
  served : ∀ e ∈ log, ∃ phase, s.calls[e.call]? = some ⟨e.errand, phase⟩ ∧ p.Bound a now e.service phase
  unserved : ∀ i call, s.calls[i]? = some call → i ∉ log.map (·.call) → call.phase.standing ≠ .away
  flight : ∀ i answer, s.standing i = .asking answer →
    answer.outcome = Provider.nextOutcome a stock log

variable {p} {a} {now} {stock} {s t : Session Nat} {log : List Served}

lemma bound_standing {v : Service} {phase : Phase} (h : p.Bound a now v phase) :
    phase.standing = .away := by
  cases phase with
  | waiting => cases h
  | refreshing => cases h
  | exchanging => rfl
  | done => rfl

lemma standing_of_call {id : Nat} {call : Call} (h : s.calls[id]? = some call) :
    s.standing id = call.phase.standing := by
  simp [standing, h]

namespace Linear

lemma exists_call (h : s.Linear p a now stock log) {id : Nat} (hid : id ∈ log.map (·.call)) :
    ∃ call, s.calls[id]? = some call := by
  obtain ⟨e, he, rfl⟩ := List.mem_map.mp hid
  obtain ⟨phase, hc, -⟩ := h.served e he
  exact ⟨_, hc⟩

section Change

variable (h : s.Linear p a now stock log) (hg : Guarded t.shared.guard t.standing)
variable (hf : t.OnErrand p) {id : Nat} {errand : Errand} {phase : Phase}
variable (ho : ∀ i ≠ id, t.calls[i]? = s.calls[i]?) (hc : t.calls[id]? = some ⟨errand, phase⟩)

include h ho in
lemma served_elsewhere (hn : id ∉ log.map (·.call)) : ∀ e ∈ log, ∃ phase,
    t.calls[e.call]? = some ⟨e.errand, phase⟩ ∧ p.Bound a now e.service phase := by
  intro e he
  rw [ho e.call fun hi => hn (hi ▸ List.mem_map_of_mem he)]
  exact h.served e he

include h ho in
lemma flight_elsewhere {i : Nat} (hi : i ≠ id) {answer : Delayed (Except Cause Issued)}
    (hs : t.standing i = .asking answer) : answer.outcome = Provider.nextOutcome a stock log := by
  rw [standing, ho i hi] at hs
  exact h.flight i answer hs

include h hg hf ho hc

lemma remain (hn : id ∉ log.map (·.call)) (hl : Ledger p a now stock t.shared.side log)
    (early : phase.standing ≠ .away)
    (flight : ∀ answer, phase.standing = .asking answer →
      answer.outcome = Provider.nextOutcome a stock log) :
    t.Linear p a now stock log := by
  refine ⟨hg, hf, hl, h.nodup, h.served_elsewhere ho hn, ?_, ?_⟩
  · intro i call hi hn'
    by_cases hid : i = id
    · subst hid
      obtain rfl := Option.some.inj (hc.symm.trans hi)
      exact early
    · exact h.unserved i call ((ho i hid).symm.trans hi) hn'
  · intro i answer hi
    by_cases hid : i = id
    · subst hid
      rw [standing_of_call hc] at hi
      exact flight answer hi
    · exact h.flight_elsewhere ho hid hi

lemma enter (hn : id ∉ log.map (·.call)) {v : Service}
    (hl : Ledger p a now stock t.shared.side (log ++ [⟨id, errand, v⟩]))
    (quiet : t.shared.guard.holder = none ∨ v.asks = false) (hb : p.Bound a now v phase) :
    t.Linear p a now stock (log ++ [⟨id, errand, v⟩]) := by
  refine ⟨hg, hf, hl, ?_, ?_, ?_, ?_⟩
  · rw [List.map_append, List.nodup_append]
    refine ⟨h.nodup, by simp, ?_⟩
    rintro i hi j hj rfl
    have hid : i = id := List.mem_singleton.mp hj
    exact hn (hid ▸ hi)
  · intro e he
    rcases List.mem_append.mp he with he | he
    · exact h.served_elsewhere ho hn e he
    · obtain rfl := List.mem_singleton.mp he
      exact ⟨phase, hc, hb⟩
  · intro i call hi hn'
    rw [List.map_append, List.mem_append, not_or] at hn'
    exact h.unserved i call ((ho i fun hid => hn'.2 (by simp [hid])).symm.trans hi) hn'.1
  -- the answer of a call in flight was drawn at the stock of the log, which must not change now:
  -- either this was the call in flight, or the new service has not touched the stock
  · intro i answer hi
    rcases quiet with free | quiet
    · have held := (hg.holder i).mpr ⟨answer, hi⟩
      simp [free] at held
    · have hid : i ≠ id := by
        rintro rfl
        rw [standing_of_call hc, bound_standing hb] at hi
        cases hi
      have hk : Provider.nextOutcome a stock (log ++ [⟨id, errand, v⟩]) =
          Provider.nextOutcome a stock log := by
        rw [Provider.nextOutcome, Ledger.afterLog_append, Stock.after_of_not_asks _ quiet,
          Provider.nextOutcome]
      rw [hk]
      exact h.flight_elsewhere ho hid hi

lemma advance (hn : id ∉ log.map (·.call))
    (adv : p.Advanced a now stock log id errand s.shared.guard.holder t.shared.side phase) :
    ∃ new, t.Linear p a now stock (log ++ new) ∧ ∀ e ∈ new, e.call = id := by
  cases adv with
  | waits hl =>
    refine ⟨[], ?_, by simp⟩
    rw [List.append_nil]
    exact h.remain hg hf ho hc hn hl (by simp [Phase.standing]) (by simp [Phase.standing])
  | asks hl _ _ answer ha =>
    refine ⟨[], ?_, by simp⟩
    rw [List.append_nil]
    apply h.remain hg hf ho hc hn hl (by simp [Phase.standing])
    rintro _ ⟨⟩
    exact ha
  | served v hl quiet hb =>
    exact ⟨[⟨id, errand, v⟩], h.enter hg hf ho hc hn hl quiet hb, by simp⟩

lemma proceed (hx : t.shared.side = s.shared.side) {phase' : Phase}
    (hc' : s.calls[id]? = some ⟨errand, phase'⟩) (hid : id ∈ log.map (·.call))
    (hb : ∀ v, p.Bound a now v phase' → p.Bound a now v phase) :
    t.Linear p a now stock log := by
  obtain ⟨e, he, hi⟩ := List.mem_map.mp hid
  have haway : phase.standing = .away := by
    obtain ⟨phase₀, hc₀, hb₀⟩ := h.served e he
    rw [hi, hc'] at hc₀
    cases hc₀
    exact bound_standing (hb _ hb₀)
  refine ⟨hg, hf, hx ▸ h.ledger, h.nodup, ?_, ?_, ?_⟩
  · intro e he
    obtain ⟨phase₀, hc₀, hb₀⟩ := h.served e he
    by_cases hi : e.call = id
    · rw [hi, hc'] at hc₀
      cases hc₀
      exact ⟨phase, hi ▸ hc, hb _ hb₀⟩
    · exact ⟨phase₀, (ho _ hi).trans hc₀, hb₀⟩
  · intro i call hci hn
    exact h.unserved i call ((ho i fun hi => hn (hi ▸ hid)).symm.trans hci) hn
  · intro i answer hs
    apply h.flight_elsewhere ho _ hs
    rintro rfl
    rw [standing_of_call hc, haway] at hs
    cases hs

end Change

variable (hp : p.collaborators = a.collaborators)
include hp

lemma start (h : s.Linear p a now stock log) (errand : Errand) (favoured : Bool) :
    ∃ new, (s.move p (.start errand favoured)).Linear p a now stock (log ++ new) ∧
      ∀ e ∈ new, e.call = s.calls.length := by
  have hc : (s.move p (.start errand favoured)).calls[s.calls.length]? =
      some ⟨errand, (p.start s.calls.length errand favoured s.shared).2⟩ := by
    simp [Session.move]
  refine h.advance (s.move_guarded p _ h.guarded) (move_onErrand h.onErrand _) ?_ hc ?_ ?_
  · intro i hi
    rcases Nat.lt_or_gt_of_ne hi with hl | hl
    · simp [Session.move, List.getElem?_append_left hl]
    · rw [List.getElem?_eq_none (Nat.le_of_lt hl), List.getElem?_eq_none]
      simpa [Session.move] using Nat.succ_le_of_lt hl
  · intro hid
    obtain ⟨call, hc⟩ := h.exists_call hid
    simp at hc
  · exact (p.start_started s.calls.length favoured errand s.shared).advanced hp h.ledger

lemma poll (h : s.Linear p a now stock log) (id : Nat) (favoured : Bool) :
    ∃ new, (s.move p (.poll id favoured)).Linear p a now stock (log ++ new) ∧
      ∀ e ∈ new, e.call = id := by
  rcases s.idle_or_running id with hi | ⟨call, job, hc, hj⟩
  · refine ⟨[], ?_, by simp⟩
    rw [hi.move_poll, List.append_nil]
    exact h
  · have hg := s.move_guarded p (.poll id favoured) h.guarded
    have hf := move_onErrand (p := p) h.onErrand (.poll id favoured)
    have hpoll := p.poll_polled id favoured call.phase s.shared
    have hl : id < s.calls.length := (List.getElem?_eq_some_iff.mp hc).1
    rw [move_poll p s hc] at hg hf ⊢
    have ho : ∀ i ≠ id, (s.calls.set id
        { call with phase := (p.poll id call.phase favoured s.shared).2 })[i]? = s.calls[i]? :=
      fun i hi => List.getElem?_set_ne hi.symm
    by_cases hid : id ∈ log.map (·.call)
    · refine ⟨[], ?_, by simp⟩
      obtain ⟨e, he, rfl⟩ := List.mem_map.mp hid
      obtain ⟨phase, hc', hb⟩ := h.served e he
      obtain rfl := Option.some.inj (hc.symm.trans hc')
      obtain ⟨hx, hk⟩ := hpoll.bound h.ledger.clock (bound_standing hb)
      rw [List.append_nil]
      exact h.proceed hg hf ho (List.getElem?_set_self hl) hx hc hid hk
    · have early := h.unserved id call hc hid
      apply h.advance hg hf ho (List.getElem?_set_self hl) hid
      apply hpoll.advanced hp h.ledger (h.onErrand id call hc job hj) early hj
      intro answer ha
      have hs : s.standing id = .asking answer := (standing_of_call hc).trans ha
      exact ⟨(h.guarded.holder id).mpr ⟨answer, hs⟩, h.flight id answer hs⟩

lemma move (h : s.Linear p a now stock log) (m : Move) (hc : m.isCancel = false)
    (hs : (s.move p m).shared.clock = s.shared.clock) :
    ∃ new, (s.move p m).Linear p a now stock (log ++ new) ∧ ∀ e ∈ new, e.call = s.callOf m := by
  cases m with
  | start errand favoured => exact h.start hp errand favoured
  | poll id favoured => exact h.poll hp id favoured
  | cancel id => cases hc
  | turn clock =>
    refine ⟨[], ?_, by simp⟩
    have ht : s.move p (.turn clock) = s := by
      have hn : clock.next s.shared.clock = s.shared.clock := hs
      rw [Session.move, hn]
    rw [ht, List.append_nil]
    exact h

lemma run (h : s.Linear p a now stock log) {moves : List Move} (hs : s.Still p moves)
    (hc : ∀ m ∈ moves, m.isCancel = false) :
    ∃ log', log <+: log' ∧ (s.run p moves).Linear p a now stock log' ∧
      ∀ first, first <+: moves →
        ∃ mid, mid <+: log' ∧ (s.run p first).Linear p a now stock mid := by
  induction moves generalizing s log with
  | nil =>
    refine ⟨log, List.prefix_refl log, h, ?_⟩
    rintro first hf
    obtain rfl := List.prefix_nil.mp hf
    exact ⟨log, List.prefix_refl log, h⟩
  | cons m moves ih =>
    obtain ⟨new, hn, -⟩ := h.move hp m (hc m List.mem_cons_self) hs.1
    obtain ⟨log', hl, hr, hmid⟩ := ih hn hs.2 fun m hm => hc m (List.mem_cons_of_mem _ hm)
    have hlog : log <+: log' := (List.prefix_append log new).trans hl
    refine ⟨log', hlog, hr, fun first hf => ?_⟩
    cases first with
    | nil => exact ⟨log, hlog, h⟩
    | cons m' first =>
      obtain ⟨rfl, hf'⟩ := List.cons_prefix_cons.mp hf
      exact hmid first hf'

end Linear

lemma ofSeed_linear (seed : TokenCache) (clock : Instant) :
    (ofSeed seed clock 0).Linear p a clock ⟨seed, 0⟩ [] := by
  refine ⟨ofSeed_guarded seed clock 0, ?_, ?_, List.nodup_nil, ?_, ?_, ?_⟩
  · intro i call hi
    simp [ofSeed, initial] at hi
  · exact ⟨rfl, rfl, rfl, rfl, (by simp [ofSeed, initial, Shared.initial, Shared.side, Guard.free]), rfl, rfl, rfl, rfl⟩
  · simp
  · intro i call hi
    simp [ofSeed, initial] at hi
  · intro i answer hi
    simp [ofSeed, initial, standing] at hi

end Session

end RegistryLogin
