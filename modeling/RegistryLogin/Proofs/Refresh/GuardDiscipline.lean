import RegistryLogin.Proofs.Calls.Moves
import Mathlib.Logic.ExistsUnique

/-! The guard under which a token is refreshed. -/

namespace RegistryLogin

structure Guarded (g : Guard) (standing : Nat → Standing) : Prop where
  holder : ∀ c, g.holder = some c ↔ ∃ answer, standing c = .asking answer
  queue : ∀ c, c ∈ g.queue ↔ standing c = .queued
  nodup : g.queue.Nodup

namespace Guarded

variable {g : Guard} {σ τ : Nat → Standing} {call : Nat}

lemma initial : Guarded .free fun _ => .away := by
  refine ⟨?_, ?_, List.nodup_nil⟩ <;> intro c <;> simp [Guard.free]

lemma same (h : Guarded g σ) (hc : τ call = σ call) (ho : ∀ i ≠ call, τ i = σ i) :
    Guarded g τ := by
  have he : τ = σ := by
    funext i
    by_cases hi : i = call
    · rw [hi, hc]
    · exact ho i hi
  exact he ▸ h

lemma mem_erase (h : Guarded g σ) (ho : ∀ i ≠ call, τ i = σ i) (hq : τ call ≠ .queued) (c : Nat) :
    c ∈ g.queue.erase call ↔ τ c = .queued := by
  rw [h.nodup.mem_erase_iff]
  by_cases hc : c = call
  · simp [hc, hq]
  · simp [hc, ho c hc, h.queue c]

lemma asking (h : Guarded g σ) (hg : g.holder = none ∨ g.holder = some call)
    {answer : Delayed (Except Cause Issued)} (hc : τ call = .asking answer)
    (ho : ∀ i ≠ call, τ i = σ i) : Guarded ⟨some call, g.queue.erase call⟩ τ := by
  refine ⟨?_, h.mem_erase ho (by simp [hc]), h.nodup.erase call⟩
  intro c
  by_cases hi : c = call
  · simp [hi, hc]
  · have hn : g.holder ≠ some c := by
      rcases hg with hg | hg <;> simp [hg, Ne.symm hi]
    have hs := (not_congr (h.holder c)).mp hn
    simp [ho c hi, Ne.symm hi, not_exists.mp hs]

lemma away (h : Guarded g σ) (hg : g.holder = none ∨ g.holder = some call) (hc : τ call = .away)
    (ho : ∀ i ≠ call, τ i = σ i) : Guarded ⟨none, g.queue.erase call⟩ τ := by
  refine ⟨?_, h.mem_erase ho (by simp [hc]), h.nodup.erase call⟩
  intro c
  by_cases hi : c = call
  · simp [hi, hc]
  · have hn : g.holder ≠ some c := by
      rcases hg with hg | hg <;> simp [hg, Ne.symm hi]
    have hs := (not_congr (h.holder c)).mp hn
    simp [ho c hi, not_exists.mp hs]

lemma queued (h : Guarded g σ) (ha : σ call = .away) (hc : τ call = .queued)
    (ho : ∀ i ≠ call, τ i = σ i) : Guarded { g with queue := g.queue ++ [call] } τ := by
  have hq : call ∉ g.queue := by rw [h.queue, ha]; simp
  refine ⟨?_, ?_, ?_⟩
  · intro c
    by_cases hi : c = call
    · rw [hi, h.holder]
      simp [ha, hc]
    · rw [h.holder, ho c hi]
  · intro c
    by_cases hi : c = call
    · simp [hi, hc]
    · simp [hi, ho c hi, h.queue c]
  · refine List.nodup_append.mpr ⟨h.nodup, by simp, ?_⟩
    rintro a ha b hb rfl
    exact hq (List.mem_singleton.mp hb ▸ ha)

lemma left (h : Guarded g σ) (ha : σ call = .queued) (hc : τ call = .away)
    (ho : ∀ i ≠ call, τ i = σ i) : Guarded { g with queue := g.queue.erase call } τ := by
  refine ⟨?_, h.mem_erase ho (by simp [hc]), h.nodup.erase call⟩
  intro c
  by_cases hi : c = call
  · rw [hi, h.holder]
    simp [ha, hc]
  · rw [h.holder, ho c hi]

lemma eq_free (h : Guarded g σ) (ha : ∀ c, σ c = .away) : g = .free := by
  obtain ⟨holder, queue⟩ := g
  have hq : queue = [] := List.eq_nil_iff_forall_not_mem.mpr fun c hc => by
    have hs := (h.queue c).mp hc
    simp [ha] at hs
  cases holder with
  | none => rw [hq, Guard.free]
  | some c =>
    obtain ⟨answer, hs⟩ := (h.holder c).mp rfl
    simp [ha] at hs

end Guarded

namespace Provider

variable {World Client : Type} {p : Provider World Client} {call : Nat} {job : Job}
variable {x y : IdentitySide World} {r : Progress IdentityToken}

lemma Heard.guard {answer : Delayed (Except Cause Issued)} (h : Heard call job x answer y r) :
    (y.guard = x.guard ∧ ∃ answer, r.standing = .asking answer) ∨
      y.guard = ⟨none, x.guard.queue⟩ ∧ r.standing = .away := by
  cases h with
  | pending pauses outcome => exact .inl ⟨rfl, _, rfl⟩
  | failed => exact .inr ⟨rfl, rfl⟩
  | panicked => exact .inr ⟨rfl, rfl⟩
  | returned => exact .inr ⟨rfl, rfl⟩

lemma Renewed.guard (h : Renewed p call job x y r) :
    (y.guard = x.guard ∧ ∃ answer, r.standing = .asking answer) ∨
      y.guard = ⟨none, x.guard.queue⟩ ∧ r.standing = .away := by
  cases h with
  | overflowed => exact .inr ⟨rfl, rfl⟩
  | reused => exact .inr ⟨rfl, rfl⟩
  | asked _ heard => exact heard.guard

variable {σ τ : Nat → Standing}

lemma Renewed.asks (h : Renewed p call job x y r) (stale : p.freshFor x = some none) :
    y.contacts = x.contacts ++ [.asked call p.identityRequest, .polled call] := by
  cases h with
  | overflowed hf => simp [stale] at hf
  | reused token hf => simp [stale] at hf
  | asked _ heard =>
    rw [heard.contacts]
    exact List.append_assoc x.contacts [_] [_]

lemma Sought.asks {favoured : Bool} {a : Standing} (h : Sought p call job favoured x a y r)
    (ha : a.isAsking = false) (stale : p.freshFor x = some none)
    (free : x.guard.admits call favoured = true) :
    y.contacts = x.contacts ++ [.asked call p.identityRequest, .polled call] := by
  cases h with
  | overflowed hf => simp [stale] at hf
  | reused token hf => simp [stale] at hf
  | queued _ busy => simp [free] at busy
  | entered _ _ renewed => exact renewed.asks stale
  | waited busy => simp [free] at busy
  | admitted _ renewed => exact renewed.asks stale
  | heard => simp [Standing.isAsking] at ha

lemma Renewed.guarded (h : Renewed p call job (x.takenBy call) y r) (hg : Guarded x.guard σ)
    (free : x.guard.holder = none) (hc : τ call = r.standing) (ho : ∀ i ≠ call, τ i = σ i) :
    Guarded y.guard τ := by
  rcases h.guard with ⟨he, answer, hs⟩ | ⟨he, hs⟩
  · rw [he]
    exact hg.asking (.inl free) (hc.trans hs) ho
  · rw [he]
    exact hg.away (.inl free) (hc.trans hs) ho

lemma Heard.guarded {answer : Delayed (Except Cause Issued)} (h : Heard call job x answer y r)
    (hg : Guarded x.guard σ) (ha : σ call = .asking answer) (hc : τ call = r.standing)
    (ho : ∀ i ≠ call, τ i = σ i) : Guarded y.guard τ := by
  have held : x.guard.holder = some call := (hg.holder call).mpr ⟨answer, ha⟩
  have hq : x.guard.queue.erase call = x.guard.queue :=
    List.erase_of_not_mem (by rw [hg.queue, ha]; simp)
  rcases h.guard with ⟨he, answer, hs⟩ | ⟨he, hs⟩
  · have hh := hg.asking (.inr held) (hc.trans hs) ho
    rw [hq, ← held] at hh
    exact he ▸ hh
  · have hh := hg.away (.inr held) (hc.trans hs) ho
    rw [hq] at hh
    exact he ▸ hh

lemma Sought.guarded {favoured : Bool} {a : Standing} (h : Sought p call job favoured x a y r)
    (hg : Guarded x.guard σ) (ha : σ call = a) (hc : τ call = r.standing)
    (ho : ∀ i ≠ call, τ i = σ i) : Guarded y.guard τ := by
  cases h with
  | overflowed => exact hg.same (hc.trans ha.symm) ho
  | reused => exact hg.same (hc.trans ha.symm) ho
  | queued => exact hg.queued ha hc ho
  | entered _ free renewed => exact renewed.guarded hg (admits_free free) hc ho
  | waited => exact hg.same (hc.trans ha.symm) ho
  | admitted free renewed => exact renewed.guarded hg (admits_free free) hc ho
  | heard heard => exact heard.guarded hg ha hc ho

lemma Passage.guarded {quits : Bool} {a b : Standing} (h : p.Passage call x quits a y b)
    (hg : Guarded x.guard σ) (ha : σ call = a) (hc : τ call = b) (ho : ∀ i ≠ call, τ i = σ i) :
    Guarded y.guard τ := by
  cases h with
  | aside => exact hg.same (hc.trans ha.symm) ho
  | turned => exact hg.same (hc.trans ha.symm) ho
  | sought h => exact h.guarded hg ha hc ho
  | left => exact hg.left ha hc ho
  | dropped answer =>
    have held : x.guard.holder = some call := (hg.holder call).mpr ⟨answer, ha⟩
    have hq : x.guard.queue.erase call = x.guard.queue :=
      List.erase_of_not_mem (by rw [hg.queue, ha]; simp)
    have hh := hg.away (.inr held) hc ho
    rw [hq] at hh
    exact hh

end Provider

namespace Session

variable {World Client : Type} (p : Provider World Client)

lemma move_guarded (s : Session World) (m : Move) (h : Guarded s.shared.guard s.standing) :
    Guarded (s.move p m).shared.guard (s.move p m).standing :=
  (s.move_passage p m).guarded h rfl rfl (s.move_standing p m)

theorem run_guarded (s : Session World) (moves : List Move)
    (h : Guarded s.shared.guard s.standing) :
    Guarded (s.run p moves).shared.guard (s.run p moves).standing := by
  induction moves generalizing s with
  | nil => exact h
  | cons m moves ih => exact ih (s.move p m) (s.move_guarded p m h)

lemma ofSeed_guarded (seed : TokenCache) (clock : Instant) (world : World) :
    Guarded (ofSeed seed clock world).shared.guard (ofSeed seed clock world).standing := .initial

def Waiting (s : Session World) (c : Nat) : Prop :=
  ∃ errand job, s.calls[c]? = some ⟨errand, .waiting job⟩

def Refreshing (s : Session World) (c : Nat) : Prop :=
  ∃ errand job answer, s.calls[c]? = some ⟨errand, .refreshing job answer⟩

variable {p} {s : Session World} {c : Nat}

lemma standing_eq_queued : s.standing c = .queued ↔ s.Waiting c := by
  constructor
  · intro h
    rcases hc : s.calls[c]? with _ | ⟨errand, _ | _ | _ | _⟩
    all_goals simp [standing, hc, Phase.standing] at h
    exact ⟨errand, _, hc⟩
  · rintro ⟨errand, job, hc⟩
    simp [standing, hc, Phase.standing]

lemma standing_eq_asking : (∃ answer, s.standing c = .asking answer) ↔ s.Refreshing c := by
  constructor
  · rintro ⟨answer, h⟩
    rcases hc : s.calls[c]? with _ | ⟨errand, _ | _ | _ | _⟩
    all_goals simp [standing, hc, Phase.standing] at h
    exact ⟨errand, _, _, hc⟩
  · rintro ⟨errand, job, answer, hc⟩
    exact ⟨answer, by simp [standing, hc, Phase.standing]⟩

variable (p) (s)

def Asks (m : Move) : Prop :=
  s.newContacts p m = [.asked (s.callOf m) p.identityRequest, .polled (s.callOf m)]

instance (m : Move) : Decidable (s.Asks p m) := inferInstanceAs (Decidable (_ = _))

lemma admits_of_free {g : Guard} {favoured : Bool} (free : g.holder = none)
    (h : favoured = true ∨ ∀ d ∈ g.queue, d = c) : g.admits c favoured = true := by
  rcases h with h | h
  · simp [Guard.admits, free, h]
  · simp only [Guard.admits, free, Option.isNone_none, Bool.true_and, Bool.or_eq_true,
      List.all_eq_true, beq_iff_eq]
    exact .inr h

lemma poll_asks (hw : s.Waiting c) (stale : p.fresh? s.shared = some none) {favoured : Bool}
    (free : s.shared.guard.admits c favoured = true) : s.Asks p (.poll c favoured) := by
  obtain ⟨errand, job, hc⟩ := hw
  apply newContacts_of_append
  have h := p.poll_polled c favoured (.waiting job) s.shared
  rw [move_poll p s hc]
  change (p.poll c (.waiting job) favoured s.shared).1.side.contacts = _
  generalize (p.poll c (.waiting job) favoured s.shared).1.side = z at h ⊢
  generalize (p.poll c (.waiting job) favoured s.shared).2 = phase at h
  cases h with
  | waiting sought concluded =>
    obtain ⟨-, world, rfl⟩ := concluded.standing
    exact sought.asks rfl stale free

lemma start_asks {errand : Errand} {job : Job} (hj : p.jobOf errand = .ok job)
    (stale : p.fresh? s.shared = some none) {favoured : Bool}
    (free : s.shared.guard.admits s.calls.length favoured = true) :
    s.Asks p (.start errand favoured) := by
  apply newContacts_of_append
  have h := p.start_started s.calls.length favoured errand s.shared
  change (p.start s.calls.length errand favoured s.shared).1.side.contacts = _
  generalize (p.start s.calls.length errand favoured s.shared).1.side = z at h ⊢
  generalize (p.start s.calls.length errand favoured s.shared).2 = phase at h
  cases h with
  | unresolved hu => simp [hj] at hu
  | sought _ sought concluded =>
    obtain ⟨-, world, rfl⟩ := concluded.standing
    exact sought.asks rfl stale free

structure Disciplined : Prop where
  held : s.shared.guard.holder.isSome = true ↔ ∃! c, s.Refreshing c
  holder : ∀ c, s.shared.guard.holder = some c ↔ s.Refreshing c
  single : ∀ c d, s.Refreshing c → s.Refreshing d → c = d
  waiting : ∀ c, c ∈ s.shared.guard.queue ↔ s.Waiting c
  writes : ∀ m, (s.move p m).shared.cache = s.shared.cache ∧
      (s.move p m).shared.tally.identityRefreshes = s.shared.tally.identityRefreshes ∨
    s.shared.guard.holder = some (s.callOf m) ∨ s.shared.guard.holder = none ∧ s.Asks p m
  leaves : ∀ m, s.Refreshing (s.callOf m) ∨ s.Asks p m → ¬ (s.move p m).Refreshing (s.callOf m) →
    (s.move p m).shared.guard.holder = none
  admits : s.shared.guard.holder = none → p.fresh? s.shared = some none → ∀ c favoured,
    s.Waiting c → favoured = true ∨ (∀ d, s.Waiting d → d = c) → s.Asks p (.poll c favoured)
  enters : s.shared.guard.holder = none → p.fresh? s.shared = some none → ∀ errand job favoured,
    p.jobOf errand = .ok job → favoured = true ∨ (∀ d, ¬ s.Waiting d) →
      s.Asks p (.start errand favoured)

variable {p} {s}

lemma holder_iff (h : Guarded s.shared.guard s.standing) (c : Nat) :
    s.shared.guard.holder = some c ↔ s.Refreshing c :=
  (h.holder c).trans standing_eq_asking

lemma refreshing_unique (h : Guarded s.shared.guard s.standing) {c d : Nat} (hc : s.Refreshing c)
    (hd : s.Refreshing d) : c = d := by
  rw [← holder_iff h] at hc hd
  exact Option.some.inj (hc.symm.trans hd)

lemma cache_writer (h : Guarded s.shared.guard s.standing) (m : Move) :
    (s.move p m).shared.cache = s.shared.cache ∧
        (s.move p m).shared.tally.identityRefreshes = s.shared.tally.identityRefreshes ∨
      s.shared.guard.holder = some (s.callOf m) ∨ s.shared.guard.holder = none ∧ s.Asks p m := by
  cases s.move_deals p m with
  | none _ _ _ _ cache refreshes => exact .inl ⟨cache, refreshes⟩
  | polls ha => exact .inr (.inl ((h.holder _).mpr ⟨_, ha⟩))
  | asks _ _ contacts free => exact .inr (.inr ⟨free, contacts⟩)
  | drops answer ha => exact .inr (.inl ((h.holder _).mpr ⟨answer, ha⟩))

lemma holder_of_other (h : Guarded s.shared.guard s.standing) {m : Move} {d : Nat}
    (hd : d ≠ s.callOf m) (ht : (s.move p m).Refreshing d) : s.shared.guard.holder = some d := by
  obtain ⟨answer, ha⟩ := standing_eq_asking.mpr ht
  rw [s.move_standing p m d hd] at ha
  exact (h.holder d).mpr ⟨answer, ha⟩

lemma asks_free {m : Move} (ha : s.Asks p m) : s.shared.guard.holder = none := by
  rw [Asks] at ha
  cases s.move_deals p m with
  | none _ _ contacts => simp [contacts] at ha
  | polls _ _ contacts => simp [contacts] at ha
  | asks _ _ _ free => exact free
  | drops _ _ _ contacts => simp [contacts] at ha

lemma guard_released (h : Guarded s.shared.guard s.standing) {m : Move}
    (hm : s.Refreshing (s.callOf m) ∨ s.Asks p m) (hn : ¬ (s.move p m).Refreshing (s.callOf m)) :
    (s.move p m).shared.guard.holder = none := by
  have ht := s.move_guarded p m h
  cases hh : (s.move p m).shared.guard.holder with
  | none => rfl
  | some d =>
    have hr := (holder_iff ht d).mp hh
    by_cases hd : d = s.callOf m
    · exact absurd (hd ▸ hr) hn
    · have hs := holder_of_other h hd hr
      rcases hm with hm | hm
      · rw [← holder_iff h, hs] at hm
        exact absurd (Option.some.inj hm) hd
      · rw [asks_free hm] at hs
        simp at hs

lemma Guarded.disciplined (h : Guarded s.shared.guard s.standing) : s.Disciplined p where
  held := by
    rw [Option.isSome_iff_exists]
    constructor
    · rintro ⟨c, hc⟩
      have hr := (holder_iff h c).mp hc
      exact ⟨c, hr, fun d hd => refreshing_unique h hd hr⟩
    · rintro ⟨c, hc, -⟩
      exact ⟨c, (holder_iff h c).mpr hc⟩
  holder := holder_iff h
  single c d := refreshing_unique h
  waiting c := (h.queue c).trans standing_eq_queued
  writes := cache_writer h
  leaves m := guard_released h
  admits free stale c favoured hw hf := by
    refine poll_asks p s hw stale (admits_of_free free ?_)
    rcases hf with hf | hf
    · exact .inl hf
    · exact .inr fun d hd => hf d (standing_eq_queued.mp ((h.queue d).mp hd))
  enters free stale errand job favoured hj hf := by
    refine start_asks p s hj stale (admits_of_free free ?_)
    rcases hf with hf | hf
    · exact .inl hf
    · exact .inr fun d hd => absurd (standing_eq_queued.mp ((h.queue d).mp hd)) (hf d)

/-- In every reachable state the guard is held by the one call that refreshes the token, if there is
one, and the calls and the cache go by it. -/
theorem guard_discipline (p : Provider World Client) (seed : TokenCache) (clock : Instant)
    (world : World) (moves : List Move) : ((ofSeed seed clock world).run p moves).Disciplined p :=
  Guarded.disciplined (run_guarded p _ moves (ofSeed_guarded seed clock world))

end Session

end RegistryLogin
