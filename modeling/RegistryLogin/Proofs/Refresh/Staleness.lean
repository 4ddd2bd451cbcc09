import RegistryLogin.Proofs.Time.Parts
import RegistryLogin.Provider.Rehearsal
import Mathlib.Tactic.SplitIfs

namespace RegistryLogin

lemma IdentityToken.isStaleAt?_eq (token : IdentityToken) (now : Instant) {margin : Duration}
    (h : 0 ≤ margin.ticks) : token.isStaleAt? now margin =
      if now.ticks + margin.ticks + now.offset.seconds * 1000000000 < 253402300800000000000 then
        some (decide (token.expiresOn.ticks - now.ticks ≤ margin.ticks))
      else none := by
  have := now.lower
  rw [isStaleAt?, Instant.add?, Instant.ofTicks?]
  split_ifs with range least most
  · rw [Option.map_some, Option.some.injEq, decide_eq_decide]
    change token.expiresOn.ticks ≤ now.ticks + margin.ticks ↔ _
    omega
  · exact absurd range.2 least
  · exact absurd ⟨by omega, most⟩ range
  · rfl

namespace Provider

variable {World Client : Type} {p : Provider World Client} {s : Shared World} {token : IdentityToken}

structure Reuses (p : Provider World Client) (s : Shared World) (token : IdentityToken) : Prop where
  judged : p.fresh? s = some (some token)
  outside (call : Nat) (job : Job) (favoured : Bool) :
    p.seek call job favoured s = (s.count .hit, .finished (.ok token))
  guarded (call : Nat) (job : Job) :
    p.renew call job s = ((s.count .hit).releaseGuard, .finished (.ok token))

structure Refreshes (p : Provider World Client) (s : Shared World) : Prop where
  judged : p.fresh? s = some none
  outside (call : Nat) (job : Job) (favoured : Bool) : p.seek call job favoured s =
    if s.guard.admits call favoured then p.refresh call job (s.takeGuard call)
    else (s.queueUp call, .suspended (.waiting job))
  guarded (call : Nat) (job : Job) : p.renew call job s = p.refresh call job s

structure Aborts (p : Provider World Client) (s : Shared World) : Prop where
  judged : p.fresh? s = none
  outside (call : Nat) (job : Job) (favoured : Bool) :
    p.seek call job favoured s = (s, .overflowed .identity)
  guarded (call : Nat) (job : Job) : p.renew call job s = (s.releaseGuard, .overflowed .identity)
  primes (call : Nat) (favoured : Bool) :
    p.start call .prime favoured s = (s, .done (.overflowed .identity))
  provides {reference host : String} (h : p.collaborators.resolveHost reference = .ok host)
    (call : Nat) (favoured : Bool) :
    (p.start call (.provide reference) favoured s).2 = .done (.overflowed .identity)

lemma reuses_of_judged (h : p.fresh? s = some (some token)) : p.Reuses s token where
  judged := h
  outside call job favoured := by simp only [seek, h]
  guarded call job := by simp only [renew, h]

lemma refreshes_of_judged (h : p.fresh? s = some none) : p.Refreshes s where
  judged := h
  outside call job favoured := by
    have again : p.fresh? (s.takeGuard call) = some none := h
    simp only [seek, h, renew, again]
  guarded call job := by simp only [renew, h]

lemma aborts_of_judged (h : p.fresh? s = none) : p.Aborts s where
  judged := h
  outside call job favoured := by simp only [seek, h]
  guarded call job := by simp only [renew, h]
  primes call favoured := by
    simp only [start, asJob, proceed, seek, h]
    rfl
  provides {reference host} resolved call favoured := by
    let opened := (((s.record call (.opened .provide)).record call (.counted .provide .attempt)).count
      .attempt)
    let entered := { opened with entered := ⟨call, .provide⟩ :: opened.entered }
    have again : p.fresh? (entered.record call (.resolving reference)) = none := h
    have broken : (p.resolve call reference favoured entered).2 = .overflowed .identity := by
      simp only [resolve, resolved, seek, again, proceed]
    change phaseOf (p.resolve call reference favoured entered).2 = _
    rw [broken]
    rfl

/-- With the token in the cache and the margin set, what the clock reads decides: the token is taken just
when it lasts longer than the margin, unless the margin leads behind the last instant. -/
theorem freshness_exact (p : Provider World Client) (s : Shared World) (margin : Duration)
    (token : IdentityToken) :
    let q := { p with margin := .ofDuration margin }
    let t := { s with cache := ⟨some token⟩ }
    let allowed := max margin.ticks 0
    let inRange := s.clock.ticks + allowed + s.clock.offset.seconds * 1000000000 < 253402300800000000000
    (inRange ∧ allowed < token.expiresOn.ticks - s.clock.ticks → q.Reuses t token) ∧
      (inRange ∧ token.expiresOn.ticks - s.clock.ticks ≤ allowed → q.Refreshes t) ∧
      (¬ inRange → q.Aborts t) := by
  intro q t allowed inRange
  have ticks : q.margin.duration.ticks = allowed := margin.clamped_ticks
  have judged : q.fresh? t = (if inRange then
      some (decide (token.expiresOn.ticks - s.clock.ticks ≤ allowed)) else none).map
        fun stale => if stale then none else some token := by
    have stale := token.isStaleAt?_eq s.clock q.margin.nonnegative
    rw [ticks] at stale
    rw [← stale]
    rfl
  refine ⟨?_, ?_, fun beyond => aborts_of_judged ?_⟩
  · rintro ⟨within, lasting⟩
    refine reuses_of_judged ?_
    rw [judged, if_pos within, decide_eq_false (Int.not_le.mpr lasting)]
    rfl
  · rintro ⟨within, ending⟩
    refine refreshes_of_judged ?_
    rw [judged, if_pos within, decide_eq_true ending]
    rfl
  · rw [judged, if_neg beyond]
    rfl

def scripted (margin : Duration) : Provider Script RehearsalClient :=
  ⟨"tenant", "client", .default, .ofDuration margin, .histogram,
    (⟨.references, .scripted, .scripted⟩ : Rehearsal).collaborators⟩

def newYear : Instant := ⟨1735689600 * 1000000000, .utc, by decide, by decide⟩

def atRest : Shared Script := .initial .empty newYear ⟨[], [], ⟨.ofWorking [], .unreachable, newYear, []⟩⟩

def hourly : IdentityToken := ⟨⟨"aad"⟩, ⟨1735693200 * 1000000000, .utc, by decide, by decide⟩⟩

theorem freshness_exact_hour :
    let t := { atRest with cache := ⟨some hourly⟩ }
    (scripted ⟨300000000000, by decide, by decide⟩).Reuses t hourly ∧
      (scripted ⟨3600000000000, by decide, by decide⟩).Refreshes t ∧
      (scripted .longest).Aborts t :=
  ⟨(freshness_exact (scripted .zero) atRest _ hourly).1 (by decide),
    (freshness_exact (scripted .zero) atRest _ hourly).2.1 (by decide),
    (freshness_exact (scripted .zero) atRest .longest hourly).2.2 (by decide)⟩

theorem freshness_longest :
    ¬ ∀ (margin : Duration) (s : Shared Script) (token : IdentityToken),
      (scripted margin).fresh? { s with cache := ⟨some token⟩ } =
        some (if max margin.ticks 0 < token.expiresOn.ticks - s.clock.ticks then some token
          else none) := by
  intro h
  have judged := h .longest atRest hourly
  have broken : (scripted .longest).fresh? { atRest with cache := ⟨some hourly⟩ } = none := by
    decide +kernel
  cases broken.symm.trans judged

end Provider

end RegistryLogin
