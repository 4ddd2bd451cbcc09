import RegistryLogin.Proofs.Calls.Jobs
import RegistryLogin.Proofs.Serial.Ledger

namespace RegistryLogin

namespace Provider

variable {Client : Type} (p : Provider Nat Client) (a : Answers Client) (now : Instant)
variable (stock : Stock) (log : List Served) (call : Nat) (errand : Errand) (job : Job)

def nextOutcome : Except Cause Issued := (a.identity (stock.afterLog log).asked).outcome

inductive Handled (holder : Option Nat) : IdentitySide Nat → Progress IdentityToken → Prop
  | waits {y : IdentitySide Nat} (h : Ledger p a now stock y log) (kept : y.guard.holder = holder) :
    Handled holder y (.suspended (.waiting job))
  | asks {y : IdentitySide Nat} (h : Ledger p a now stock y log) (held : y.guard.holder = some call)
      (answer : Delayed (Except Cause Issued)) (ho : answer.outcome = nextOutcome a stock log) :
    Handled holder y (.suspended (.refreshing job answer))
  | served {y : IdentitySide Nat} (v : Service)
      (h : Ledger p a now stock y (log ++ [⟨call, errand, v⟩])) (free : y.guard.holder = none)
      (hv : v.suits job) : Handled holder y v.result

inductive Advanced (holder : Option Nat) : IdentitySide Nat → Phase → Prop
  | waits {z : IdentitySide Nat} (h : Ledger p a now stock z log) (kept : z.guard.holder = holder)
      (job : Job) : Advanced holder z (.waiting job)
  | asks {z : IdentitySide Nat} (h : Ledger p a now stock z log) (held : z.guard.holder = some call)
      (job : Job) (answer : Delayed (Except Cause Issued))
      (ho : answer.outcome = nextOutcome a stock log) : Advanced holder z (.refreshing job answer)
  | served {z : IdentitySide Nat} (v : Service)
      (h : Ledger p a now stock z (log ++ [⟨call, errand, v⟩]))
      (quiet : z.guard.holder = none ∨ v.asks = false) {phase : Phase} (hb : p.Bound a now v phase) :
    Advanced holder z phase

variable {p a now stock log call errand job}
variable {x y z : IdentitySide Nat} {r : Progress IdentityToken} {phase : Phase}

lemma Heard.handled (h : Ledger p a now stock x log) (held : x.guard.holder = some call)
    (hj : p.jobOf errand = .ok job) {answer : Delayed (Except Cause Issued)}
    (ho : answer.outcome = nextOutcome a stock log) (heard : Heard call job x answer y r)
    (holder : Option Nat) : Handled p a now stock log call errand job holder y r := by
  have hl := h.polled call
  cases heard with
  | pending pauses outcome => exact .asks hl held _ ho
  | failed cause =>
    refine .served (.failed cause) (hl.answer held hj ?_ rfl rfl rfl rfl rfl rfl ?_ rfl) rfl trivial
    · exact congrArg (Service.ofAnswer job now) ho
    · exact (UInt64.add_zero _).symm
  | panicked issued ht =>
    rw [h.clock] at ht
    refine .served .panicked (hl.answer held hj ?_ rfl rfl rfl rfl rfl rfl ?_ ?_) rfl trivial
    · refine Eq.trans ?_ (congrArg (Service.ofAnswer job now) ho)
      simp [Service.ofAnswer, ht]
    · exact (UInt64.add_zero _).symm
    · exact (UInt64.add_zero _).symm
  | returned issued token ht =>
    rw [h.clock] at ht
    refine .served (.refreshed job token) (hl.answer held hj ?_ rfl rfl rfl rfl rfl rfl rfl ?_) rfl rfl
    · refine Eq.trans ?_ (congrArg (Service.ofAnswer job now) ho)
      simp [Service.ofAnswer, ht]
    · exact (UInt64.add_zero _).symm

lemma Polled.bound {favoured : Bool} {phase' : Phase} (h : Polled p call favoured x phase z phase')
    (hc : x.clock = now) (hw : phase.standing = .away) :
    z = x ∧ ∀ v, p.Bound a now v phase → p.Bound a now v phase' := by
  cases h with
  | waiting => cases hw
  | refreshing => cases hw
  | exchanging answered => exact ⟨rfl, fun v hv => (hc ▸ answered).bound hv⟩
  | done => exact ⟨rfl, fun v hv => hv⟩

variable (hp : p.collaborators = a.collaborators)
include hp

lemma Renewed.handled (h : Ledger p a now stock x log) (free : x.guard.holder = none)
    (hj : p.jobOf errand = .ok job) (renewed : Renewed p call job (x.takenBy call) y r)
    (holder : Option Nat) : Handled p a now stock log call errand job holder y r := by
  have hx : p.freshFor (x.takenBy call) = (stock.afterLog log).cache.freshAt? now p.margin.duration :=
    h.freshFor_eq
  cases renewed with
  | overflowed hf =>
    exact .served .overflowed (h.serve_quiet (serve_overflowed hj (hx ▸ hf)).symm rfl free.symm rfl rfl
      rfl rfl (UInt64.add_zero _).symm rfl rfl) rfl trivial
  | reused token hf =>
    exact .served (.reused job token) (h.serve_quiet (serve_reused hj (hx ▸ hf)).symm rfl free.symm rfl
      rfl rfl rfl rfl rfl rfl) rfl rfl
  | asked stale heard =>
    refine heard.handled (h.ask hp free stale call) rfl hj ?_ holder
    have hw := h.asked
    rw [free] at hw
    change (p.answerIn x.world).outcome = _
    rw [answerIn_eq hp, hw]
    rfl

lemma Sought.handled (h : Ledger p a now stock x log) (hj : p.jobOf errand = .ok job)
    {favoured : Bool} {standing : Standing} (sought : Sought p call job favoured x standing y r)
    (held : ∀ answer, standing = .asking answer →
      x.guard.holder = some call ∧ answer.outcome = nextOutcome a stock log) :
    Handled p a now stock log call errand job x.guard.holder y r := by
  cases sought with
  | overflowed hf =>
    have free := h.holder_none (by simp [hf])
    exact .served .overflowed (h.serve_quiet (serve_overflowed hj (h.freshFor_eq ▸ hf)).symm rfl rfl rfl
      rfl rfl rfl (UInt64.add_zero _).symm rfl rfl) free trivial
  | reused token hf =>
    have free := h.holder_none (by simp [hf])
    exact .served (.reused job token) (h.serve_quiet (serve_reused hj (h.freshFor_eq ▸ hf)).symm rfl rfl
      rfl rfl rfl rfl rfl rfl rfl) free rfl
  | queued => exact .waits (h.joined call) rfl
  | entered _ free renewed => exact renewed.handled hp h (admits_free free) hj _
  | waited => exact .waits h rfl
  | admitted free renewed => exact renewed.handled hp h (admits_free free) hj _
  | heard heard =>
    obtain ⟨hh, ho⟩ := held _ rfl
    exact heard.handled h hh hj ho _

lemma Concluded.advanced {holder : Option Nat} (h : Concluded p y job r z phase)
    (hh : Handled p a now stock log call errand job holder y r) :
    Advanced p a now stock log call errand holder z phase := by
  cases hh with
  | waits hl kept =>
    cases h with
    | suspended => exact .waits hl kept job
  | asks hl held answer ho =>
    cases h with
    | suspended => exact .asks hl held job answer ho
  | served v hl free hv =>
    obtain ⟨rfl, hb⟩ := h.bound hp hv hl.clock
    exact .served v hl (.inl free) hb

lemma Started.advanced {favoured : Bool} (h : Started p call favoured errand x z phase)
    (hl : Ledger p a now stock x log) :
    Advanced p a now stock log call errand x.guard.holder z phase := by
  cases h with
  | unresolved hu =>
    exact .served (.unresolved _) (hl.serve_quiet (serve_unresolved hu).symm rfl rfl rfl rfl rfl rfl
      (UInt64.add_zero _).symm rfl rfl) (.inr rfl) rfl
  | sought hj sought concluded => exact concluded.advanced hp (sought.handled hp hl hj (by simp))

lemma Polled.advanced {favoured : Bool} {phase' : Phase}
    (h : Polled p call favoured x phase z phase') (hl : Ledger p a now stock x log) {job : Job}
    (hj : p.jobOf errand = .ok job) (early : phase.standing ≠ .away) (hp' : phase.job? = some job)
    (held : ∀ answer, phase.standing = .asking answer →
      x.guard.holder = some call ∧ answer.outcome = nextOutcome a stock log) :
    Advanced p a now stock log call errand x.guard.holder z phase' := by
  cases h with
  | waiting sought concluded =>
    obtain rfl := Option.some.inj hp'
    exact concluded.advanced hp (sought.handled hp hl hj (by simp))
  | refreshing heard concluded =>
    obtain rfl := Option.some.inj hp'
    obtain ⟨hh, ho⟩ := held _ rfl
    exact concluded.advanced hp (heard.handled hl hh hj ho x.guard.holder)
  | exchanging => exact absurd rfl early
  | done => exact absurd rfl early

end Provider

end RegistryLogin
