import RegistryLogin.Proofs.Serial.Service

/-! The ledger of a run: the calls that have been served, in the order of their services. -/

namespace RegistryLogin

structure Served where
  call : Nat
  errand : Errand
  service : Service

def Stock.afterLog (stock : Stock) (log : List Served) : Stock := stock.afterAll (log.map (·.service))

/-- The identity side of a session goes by its log. A source call in flight is not in there yet, but
has been counted by the source. -/
structure Ledger {Client : Type} (p : Provider Nat Client) (a : Answers Client) (now : Instant)
    (stock : Stock) (x : IdentitySide Nat) (log : List Served) : Prop where
  services : log.map (·.service) = p.services a now stock (log.map (·.errand))
  clock : x.clock = now
  cache : x.cache = (stock.afterLog log).cache
  asked : x.world = (stock.afterLog log).asked + x.guard.holder.toList.length
  stale : x.guard.holder.isSome = true → p.freshFor x = some none
  hits : x.hits = .ofNat (log.countP (·.service.isReused))
  refreshes : x.refreshes = .ofNat (log.countP (·.service.isRefreshed))
  failures : x.refreshFailures = .ofNat (log.countP (·.service.isFailed))
  questions : x.contacts.filterMap Contact.question? =
    ((log.filter (·.service.asks)).map (·.call) ++ x.guard.holder.toList).map (·, p.identityRequest)

namespace Ledger

variable {Client : Type} {p : Provider Nat Client} {a : Answers Client} {now : Instant}
variable {stock : Stock} {x y : IdentitySide Nat} {log : List Served}

lemma countP_append (log : List Served) (e : Served) (f : Served → Bool) :
    UInt64.ofNat ((log ++ [e]).countP f) = .ofNat (log.countP f) + if f e then 1 else 0 := by
  cases h : f e <;> simp [h]

lemma afterLog_append (stock : Stock) (log : List Served) (e : Served) :
    stock.afterLog (log ++ [e]) = (stock.afterLog log).after e.service := by
  simp [Stock.afterLog]

lemma freshFor_eq (h : Ledger p a now stock x log) :
    p.freshFor x = (stock.afterLog log).cache.freshAt? now p.margin.duration := by
  rw [Provider.freshFor, h.clock, h.cache]

lemma holder_none (h : Ledger p a now stock x log) (hf : p.freshFor x ≠ some none) :
    x.guard.holder = none := by
  -- the token that a source call is to replace stays stale until then
  cases hh : x.guard.holder with
  | none => rfl
  | some c => exact absurd (h.stale (by simp [hh])) hf

lemma serve (h : Ledger p a now stock x log) {e : Served}
    (hv : e.service = p.serve a now (stock.afterLog log) e.errand)
    (clock : y.clock = x.clock) (cache : y.cache = ((stock.afterLog log).after e.service).cache)
    (asked : y.world = ((stock.afterLog log).after e.service).asked + y.guard.holder.toList.length)
    (stale : y.guard.holder.isSome = true → p.freshFor y = some none)
    (hits : y.hits = x.hits + if e.service.isReused then 1 else 0)
    (refreshes : y.refreshes = x.refreshes + if e.service.isRefreshed then 1 else 0)
    (failures : y.refreshFailures = x.refreshFailures + if e.service.isFailed then 1 else 0)
    (questions : y.contacts.filterMap Contact.question? =
      (((log ++ [e]).filter (·.service.asks)).map (·.call) ++ y.guard.holder.toList).map
        (·, p.identityRequest)) :
    Ledger p a now stock y (log ++ [e]) where
  services := by
    rw [List.map_append, List.map_append, List.map_singleton, List.map_singleton,
      p.services_append, ← h.services, hv]
    rfl
  clock := clock.trans h.clock
  cache := by rw [afterLog_append, cache]
  asked := by rw [afterLog_append, asked]
  stale := stale
  hits := by rw [hits, h.hits, countP_append]
  refreshes := by rw [refreshes, h.refreshes, countP_append]
  failures := by rw [failures, h.failures, countP_append]
  questions := questions

lemma serve_quiet (h : Ledger p a now stock x log) {e : Served}
    (hv : e.service = p.serve a now (stock.afterLog log) e.errand) (quiet : e.service.asks = false)
    (holder : y.guard.holder = x.guard.holder) (clock : y.clock = x.clock) (cache : y.cache = x.cache)
    (world : y.world = x.world) (contacts : y.contacts = x.contacts)
    (hits : y.hits = x.hits + if e.service.isReused then 1 else 0)
    (refreshes : y.refreshes = x.refreshes) (failures : y.refreshFailures = x.refreshFailures) :
    Ledger p a now stock y (log ++ [e]) := by
  have hn : e.service.isRefreshed = false ∧ e.service.isFailed = false := by
    cases hs : e.service <;> simp [hs, Service.asks] at quiet <;> exact ⟨rfl, rfl⟩
  have hs := Stock.after_of_not_asks (stock.afterLog log) quiet
  refine h.serve hv clock ?_ ?_ ?_ hits ?_ ?_ ?_
  · rw [hs, cache, h.cache]
  · rw [hs, world, holder, h.asked]
  · have hf : p.freshFor y = p.freshFor x := by rw [Provider.freshFor, cache, clock, Provider.freshFor]
    rw [holder, hf]
    exact h.stale
  · simp [refreshes, hn.1]
  · simp [failures, hn.2]
  · rw [contacts, h.questions, holder]
    simp [quiet]

lemma ask (hp : p.collaborators = a.collaborators) (h : Ledger p a now stock x log)
    (free : x.guard.holder = none) (stale : p.freshFor x = some none) (call : Nat) :
    Ledger p a now stock (p.asked call (x.takenBy call)) log := by
  rw [Provider.asked_eq hp]
  refine ⟨h.services, h.clock, h.cache, ?_, fun _ => stale, h.hits, h.refreshes, h.failures, ?_⟩
  · have ha := h.asked
    rw [free] at ha
    change x.world + 1 = _
    rw [ha]
    rfl
  · have hq := h.questions
    rw [free] at hq
    refine (Contact.questions_asked x.contacts call p.identityRequest).trans ?_
    rw [hq]
    simp [IdentitySide.meet, IdentitySide.inWorld, IdentitySide.takenBy]

lemma polled (h : Ledger p a now stock x log) (call : Nat) :
    Ledger p a now stock (x.meet (.polled call)) log :=
  ⟨h.services, h.clock, h.cache, h.asked, h.stale, h.hits, h.refreshes, h.failures,
    (Contact.questions_polled x.contacts call).trans h.questions⟩

lemma joined (h : Ledger p a now stock x log) (call : Nat) :
    Ledger p a now stock (x.joinedBy call) log :=
  ⟨h.services, h.clock, h.cache, h.asked, h.stale, h.hits, h.refreshes, h.failures, h.questions⟩

lemma answer (h : Ledger p a now stock x log) {e : Served} (held : x.guard.holder = some e.call)
    {job : Job} (hj : p.jobOf e.errand = .ok job)
    (hv : e.service = .ofAnswer job now (a.identity (stock.afterLog log).asked).outcome)
    (holder : y.guard.holder = none) (clock : y.clock = x.clock)
    (cache : y.cache = (Stock.after ⟨x.cache, 0⟩ e.service).cache) (world : y.world = x.world)
    (contacts : y.contacts = x.contacts) (hits : y.hits = x.hits)
    (refreshes : y.refreshes = x.refreshes + if e.service.isRefreshed then 1 else 0)
    (failures : y.refreshFailures = x.refreshFailures + if e.service.isFailed then 1 else 0) :
    Ledger p a now stock y (log ++ [e]) := by
  have ha : e.service.asks = true := hv ▸ Service.ofAnswer_asks job now _
  have hr : e.service.isReused = false := by
    cases hs : e.service <;> simp [hs, Service.asks] at ha <;> rfl
  have stale := h.freshFor_eq ▸ h.stale (by simp [held])
  refine h.serve (hv.trans (Provider.serve_stale hj stale).symm) clock ?_ ?_ (by simp [holder]) ?_
    refreshes failures ?_
  · rw [cache, h.cache]
    cases e.service <;> rfl
  · rw [world, h.asked, held, holder, Stock.asked_of_asks _ ha]
    rfl
  · simp [hits, hr]
  · rw [contacts, h.questions, held, holder]
    simp [ha]

end Ledger

end RegistryLogin
