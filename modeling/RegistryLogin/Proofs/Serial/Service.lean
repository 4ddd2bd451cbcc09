import RegistryLogin.Proofs.Calls.Answers
import RegistryLogin.Proofs.Calls.Course

namespace RegistryLogin

inductive Service
  | unresolved (error : HostError)
  | overflowed
  | reused (job : Job) (token : IdentityToken)
  | failed (cause : Cause)
  | panicked
  | refreshed (job : Job) (token : IdentityToken)

namespace Service

def ofAnswer (job : Job) (now : Instant) : Except Cause Issued → Service
  | .error cause => .failed cause
  | .ok issued => (issued.token? now).elim .panicked (.refreshed job)

def asks : Service → Bool
  | failed _ => true
  | panicked => true
  | refreshed _ _ => true
  | _ => false

def isReused : Service → Bool
  | reused _ _ => true
  | _ => false

def isFailed : Service → Bool
  | failed _ => true
  | _ => false

def isRefreshed : Service → Bool
  | refreshed _ _ => true
  | _ => false

def result : Service → Progress IdentityToken
  | unresolved error => .finished (.error (.hostResolution error))
  | overflowed => .overflowed .identity
  | reused _ token => .finished (.ok token)
  | failed cause => .finished (.error (.identityRefresh cause))
  | panicked => .overflowed .identity
  | refreshed _ token => .finished (.ok token)

def suits (job : Job) : Service → Prop
  | reused job' _ => job' = job
  | refreshed job' _ => job' = job
  | _ => True

lemma ofAnswer_asks (job : Job) (now : Instant) (outcome : Except Cause Issued) :
    (ofAnswer job now outcome).asks = true := by
  cases outcome with
  | error => rfl
  | ok issued =>
    rw [ofAnswer]
    cases issued.token? now <;> rfl

end Service

structure Stock where
  cache : TokenCache
  asked : Nat

namespace Stock

def after (stock : Stock) : Service → Stock
  | .failed _ => ⟨stock.cache, stock.asked + 1⟩
  | .panicked => ⟨stock.cache, stock.asked + 1⟩
  | .refreshed _ token => ⟨⟨some token⟩, stock.asked + 1⟩
  | _ => stock

def afterAll (stock : Stock) (services : List Service) : Stock := services.foldl after stock

lemma after_of_not_asks (stock : Stock) {v : Service} (h : v.asks = false) :
    stock.after v = stock := by
  cases v <;> first | rfl | cases h

lemma asked_of_asks (stock : Stock) {v : Service} (h : v.asks = true) :
    (stock.after v).asked = stock.asked + 1 := by
  cases v <;> first | rfl | cases h

@[simp] lemma afterAll_append (stock : Stock) (vs : List Service) (v : Service) :
    stock.afterAll (vs ++ [v]) = (stock.afterAll vs).after v := by
  simp [afterAll]

end Stock

namespace Provider

variable {Client : Type} (p : Provider Nat Client) (a : Answers Client) (now : Instant)

def serve (stock : Stock) (errand : Errand) : Service :=
  match p.jobOf errand with
  | .error error => .unresolved error
  | .ok job =>
    match stock.cache.freshAt? now p.margin.duration with
    | none => .overflowed
    | some (some token) => .reused job token
    | some none => .ofAnswer job now (a.identity stock.asked).outcome

def services (stock : Stock) : List Errand → List Service
  | [] => []
  | errand :: errands =>
    let v := p.serve a now stock errand
    v :: services (stock.after v) errands

def registryEnding (host : String) (token : IdentityToken) : Ending :=
  match serverUrl host with
  | .error error => .returned (.error (.clientConstruction (.url error)))
  | .ok server =>
    match a.openClient server p.options with
    | .error cause => .returned (.error (.clientConstruction cause))
    | .ok client => loginEnding host token now (a.exchange client (p.exchangeRequest host token)).outcome

def jobEnding (job : Job) (token : IdentityToken) : Ending :=
  match job with
  | .warmUp => .returned (.ok .primed)
  | .login host => p.registryEnding a now host token

def endingOf : Service → Ending
  | .unresolved error => .returned (.error (.hostResolution error))
  | .overflowed => .overflowed .identity
  | .reused job token => p.jobEnding a now job token
  | .failed cause => .returned (.error (.identityRefresh cause))
  | .panicked => .overflowed .identity
  | .refreshed job token => p.jobEnding a now job token

def Bound (v : Service) : Phase → Prop
  | .exchanging host token answer => loginEnding host token now answer.outcome = p.endingOf a now v
  | .done ending => ending = p.endingOf a now v
  | _ => False

lemma services_append (stock : Stock) (errands : List Errand) (errand : Errand) :
    p.services a now stock (errands ++ [errand]) = p.services a now stock errands ++
      [p.serve a now (stock.afterAll (p.services a now stock errands)) errand] := by
  induction errands generalizing stock with
  | nil => rfl
  | cons e errands ih => simp only [List.cons_append, services, ih, Stock.afterAll, List.foldl_cons]

variable {p} {a} {now}

lemma serve_unresolved {stock : Stock} {errand : Errand} {error : HostError}
    (h : p.jobOf errand = .error error) : p.serve a now stock errand = .unresolved error := by
  rw [serve, h]

lemma serve_overflowed {stock : Stock} {errand : Errand} {job : Job} (h : p.jobOf errand = .ok job)
    (hf : stock.cache.freshAt? now p.margin.duration = none) :
    p.serve a now stock errand = .overflowed := by
  simp only [serve, h, hf]

lemma serve_reused {stock : Stock} {errand : Errand} {job : Job} (h : p.jobOf errand = .ok job)
    {token : IdentityToken} (hf : stock.cache.freshAt? now p.margin.duration = some (some token)) :
    p.serve a now stock errand = .reused job token := by
  simp only [serve, h, hf]

lemma serve_stale {stock : Stock} {errand : Errand} {job : Job} (h : p.jobOf errand = .ok job)
    (hf : stock.cache.freshAt? now p.margin.duration = some none) :
    p.serve a now stock errand = .ofAnswer job now (a.identity stock.asked).outcome := by
  simp only [serve, h, hf]

lemma Answered.bound {host : String} {token : IdentityToken}
    {answer : Delayed (Except Cause (Option Secret))} {phase : Phase}
    (h : Answered host token now answer phase) {v : Service}
    (hv : loginEnding host token now answer.outcome = p.endingOf a now v) : p.Bound a now v phase := by
  cases h with
  | pending => exact hv
  | settled => exact hv

variable (hp : p.collaborators = a.collaborators)
include hp

lemma Connected.bound {host : String} {token : IdentityToken} {asked asked' : Nat} {phase : Phase}
    (h : Connected p host token now asked asked' phase) {v : Service}
    (hv : p.endingOf a now v = p.registryEnding a now host token) :
    asked' = asked ∧ p.Bound a now v phase := by
  rw [registryEnding] at hv
  cases h with
  | noUrl hs =>
    refine ⟨rfl, ?_⟩
    rw [Bound, hv, hs]
  | noClient hs ho =>
    rw [hp] at ho
    obtain ⟨hc, rfl⟩ := Prod.mk.inj ho
    refine ⟨rfl, ?_⟩
    rw [Bound, hv, hs]
    simp only [hc]
  | opened hs ho hx answered =>
    rw [hp] at ho hx
    obtain ⟨hc, rfl⟩ := Prod.mk.inj ho
    obtain ⟨rfl, rfl⟩ := Prod.mk.inj hx
    refine ⟨rfl, answered.bound ?_⟩
    rw [hv, hs]
    simp only [hc]

lemma Concluded.bound {y z : IdentitySide Nat} {job : Job} {v : Service} {phase : Phase}
    (h : Concluded p y job v.result z phase) (hv : v.suits job) (hc : y.clock = now) :
    z = y ∧ p.Bound a now v phase := by
  generalize hr : v.result = r at h
  cases h with
  | suspended phase => cases v <;> cases hr
  | overflowed stage => cases v <;> cases hr <;> exact ⟨rfl, rfl⟩
  | failed error => cases v <;> cases hr <;> exact ⟨rfl, rfl⟩
  | primed token =>
    cases v <;> cases hr <;> cases hv <;> exact ⟨rfl, rfl⟩
  | @connected host token world phase h =>
    have he : p.endingOf a now v = p.registryEnding a now host token := by
      cases v <;> cases hr <;> cases hv <;> rfl
    obtain ⟨rfl, hb⟩ := (hc ▸ h).bound hp he
    exact ⟨rfl, hb⟩

end Provider

end RegistryLogin
