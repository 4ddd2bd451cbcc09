import Mathlib.Data.List.Perm.Basic
import RegistryLogin.Proofs.Serial.OneByOne

/-! Calls side by side could have been made one after another. -/

namespace RegistryLogin

attribute [ext] Tally

def Relabelled (order : List Nat) : List Served → List Served → Prop :=
  List.Forall₂ fun e f => e.errand = f.errand ∧ e.service = f.service ∧ order[e.call]? = some f.call

namespace Relabelled

variable {order : List Nat} {l m : List Served} (h : Relabelled order l m)
include h

lemma map_eq {α : Type} (f : Errand → Service → α) :
    l.map (fun e => f e.errand e.service) = m.map fun e => f e.errand e.service := by
  induction h with
  | nil => rfl
  | cons h _ ih => rw [List.map_cons, List.map_cons, ih, h.1, h.2.1]

lemma countP_eq (f : Service → Bool) :
    l.countP (fun e => f e.service) = m.countP fun e => f e.service := by
  induction h with
  | nil => rfl
  | cons h _ ih => rw [List.countP_cons, List.countP_cons, ih, h.2.1]

lemma askers_eq : ((l.filter (·.service.asks)).map (·.call)).map (order[·]?) =
    ((m.filter (·.service.asks)).map (·.call)).map some := by
  induction h with
  | nil => rfl
  | @cons e f _ _ h _ ih =>
    rw [List.filter_cons, List.filter_cons, h.2.1]
    split
    · rw [List.map_cons, List.map_cons, h.2.2, ih, List.map_cons, List.map_cons]
    · exact ih

end Relabelled

namespace Session

variable {Client : Type} (p : Provider Nat Client)

def Precedes {World : Type} (p : Provider World Client) (s : Session World) (moves : List Move)
    (i j : Nat) : Prop :=
  ∃ first, first <+: moves ∧ (∃ call, (s.run p first).calls[i]? = some call ∧ call.isDone = true) ∧
    (s.run p first).calls.length ≤ j

def errandsIn {World : Type} (s : Session World) (order : List Nat) : List Errand :=
  order.filterMap fun i => (s.calls[i]?).map (·.errand)

structure Matches (order : List Nat) (t s : Session Nat) : Prop where
  calls : t.calls.map some = order.map (s.calls[·]?)
  questions : t.questions.map (fun q => (order[q.1]?, q.2)) = s.questions.map fun q => (some q.1, q.2)
  cache : t.shared.cache = s.shared.cache
  tally : t.shared.tally = s.shared.tally

variable {p} {a : Answers Client} {now : Instant} {stock : Stock} {s t : Session Nat}
variable {log log' : List Served}

lemma Linear.relabelled (h : s.Linear p a now stock log) (h' : t.InOrder p a now stock log')
    (he : log'.map (·.errand) = log.map (·.errand)) : Relabelled (log.map (·.call)) log' log := by
  have hs : log'.map (·.service) = log.map (·.service) := by
    rw [h'.linear.ledger.services, h.ledger.services, he]
  apply List.forall₂_iff_get.mpr
  refine ⟨by simpa using congrArg List.length he, ?_⟩
  intro k hk hk'
  have hke : k < (log'.map (·.errand)).length := by simpa using hk
  have hks : k < (log'.map (·.service)).length := by simpa using hk
  refine ⟨?_, ?_, ?_⟩
  · simpa using List.getElem_of_eq he hke
  · simpa using List.getElem_of_eq hs hks
  · rw [List.get_eq_getElem, h'.call_eq hk]
    simp [List.getElem?_eq_getElem hk']

lemma map_calls_range {World : Type} (s : Session World) :
    (List.range s.calls.length).map (s.calls[·]?) = s.calls.map some := by
  apply List.ext_getElem
  · simp
  · intro k hk hk'
    simp

lemma Linear.calls_eq (h : s.Linear p a now stock log) (hd : s.Settled) :
    (log.map (·.call)).map (s.calls[·]?) =
      log.map fun e => some ⟨e.errand, .done (p.endingOf a now e.service)⟩ := by
  rw [List.map_map]
  exact List.map_congr_left fun e he => h.ended hd he

lemma Linear.questions_eq (h : s.Linear p a now stock log) (hd : s.Settled) :
    s.questions = ((log.filter (·.service.asks)).map (·.call)).map (·, p.identityRequest) := by
  have hq : s.questions = _ := h.ledger.questions
  have hf : s.shared.side.guard = .free := h.free hd
  simpa [hf, Guard.free] using hq

lemma Linear.matches (h : s.Linear p a now stock log) (hd : s.Settled)
    (h' : t.InOrder p a now stock log') (he : log'.map (·.errand) = log.map (·.errand))
    (hs : s.shared.logins = .of s.calls) (ht : t.shared.logins = .of t.calls) :
    Matches (log.map (·.call)) t s := by
  have hr := h.relabelled h' he
  have hcalls : t.calls.map some = (log.map (·.call)).map (s.calls[·]?) := by
    rw [← map_calls_range, ← h'.order, h'.linear.calls_eq h'.settled, h.calls_eq hd]
    exact hr.map_eq fun errand service => some (⟨errand, .done (p.endingOf a now service)⟩ : Call)
  have hperm : t.calls.Perm s.calls := by
    have hp := (h.perm hd).map (s.calls[·]?)
    rw [← hcalls, map_calls_range] at hp
    exact (List.map_perm_map_iff fun _ _ => Option.some.inj).mp hp
  have hlogins : t.shared.logins = s.shared.logins := by
    rw [ht, hs, LoginCount.of, LoginCount.of, hperm.countP_eq, hperm.countP_eq, hperm.countP_eq]
  refine ⟨hcalls, ?_, ?_, ?_⟩
  · have hq := congrArg (List.map fun c => (c, p.identityRequest)) hr.askers_eq
    rw [h'.linear.questions_eq h'.settled, h.questions_eq hd]
    simpa only [List.map_map, Function.comp_def] using hq
  · have hc := h'.linear.ledger.cache
    rw [Stock.afterLog, hr.map_eq fun _ service => service] at hc
    exact hc.trans h.ledger.cache.symm
  · have hl := h.ledger
    have hl' := h'.linear.ledger
    apply Tally.ext
    · exact congrArg LoginCount.attempts hlogins
    · exact congrArg LoginCount.successes hlogins
    · exact congrArg LoginCount.failures hlogins
    · exact hl'.refreshes.trans ((congrArg UInt64.ofNat (hr.countP_eq _)).trans hl.refreshes.symm)
    · exact hl'.failures.trans ((congrArg UInt64.ofNat (hr.countP_eq _)).trans hl.failures.symm)
    · exact hl'.hits.trans ((congrArg UInt64.ofNat (hr.countP_eq _)).trans hl.hits.symm)

lemma Linear.errandsIn_eq (h : s.Linear p a now stock log) :
    s.errandsIn (log.map (·.call)) = log.map (·.errand) := by
  rw [errandsIn, List.filterMap_map, ← List.filterMap_eq_map]
  apply List.filterMap_congr
  intro e he
  obtain ⟨phase, hc, -⟩ := h.served e he
  simp [hc]

lemma Linear.sublist_of_precedes (h : s.Linear p a now stock log) {mid : List Served}
    (hm : mid <+: log) (hmid : t.Linear p a now stock mid) {i j : Nat} {call : Call}
    (hi : t.calls[i]? = some call) (hd : call.isDone = true) (hj : t.calls.length ≤ j)
    (hlog : j ∈ log.map (·.call)) : [i, j].Sublist (log.map (·.call)) := by
  obtain ⟨rest, rfl⟩ := hm
  have hin : i ∈ mid.map (·.call) := hmid.mem_of_done hi hd
  have hout : j ∉ mid.map (·.call) := by
    intro hj'
    obtain ⟨c, hc⟩ := hmid.exists_call hj'
    rw [List.getElem?_eq_none hj] at hc
    cases hc
  rw [List.map_append, List.mem_append] at hlog
  rw [List.map_append]
  exact (List.singleton_sublist.mpr hin).append
    (List.singleton_sublist.mpr (hlog.resolve_left hout))

variable (p) (a)

/-- Calls that run to their ends under one clock, with a source that answers from a script, might as
well have been made one after another. The order of that keeps calls in order that did not overlap. -/
theorem serializable (hp : p.collaborators = a.collaborators) (seed : TokenCache) (clock : Instant)
    (moves : List Move) (still : (ofSeed seed clock 0).Still p moves)
    (uncancelled : ∀ m ∈ moves, m.isCancel = false)
    (settled : ((ofSeed seed clock 0).run p moves).Settled) :
    let s₀ : Session Nat := ofSeed seed clock 0
    let s := s₀.run p moves
    ∃ order : List Nat, order.Perm (List.range s.calls.length) ∧
      (∀ i j, j < s.calls.length → s₀.Precedes p moves i j → [i, j].Sublist order) ∧
      (∃ t, s₀.OneByOne p (s.errandsIn order) t) ∧
      ∀ t, s₀.OneByOne p (s.errandsIn order) t → t.Matches order s := by
  intro s₀ s
  have h₀ : s₀.InOrder p a clock ⟨seed, 0⟩ [] :=
    ⟨ofSeed_linear seed clock, by simp [s₀, Settled, ofSeed, initial], rfl⟩
  obtain ⟨log, -, h, hmid⟩ := h₀.linear.run hp still uncancelled
  refine ⟨log.map (·.call), h.perm settled, ?_, h₀.exists_oneByOne hp _, ?_⟩
  · rintro i j hj ⟨first, hf, ⟨call, hc, hd⟩, hl⟩
    obtain ⟨mid, hm, hlin⟩ := hmid first hf
    exact h.sublist_of_precedes hm hlin hc hd hl
      (h.mem_of_done (List.getElem?_eq_getElem hj) (settled _ (List.getElem_mem hj)))
  · intro t ht
    obtain ⟨log', h', he⟩ := h₀.oneByOne hp ht
    obtain ⟨moves', rfl⟩ := ht.exists_moves
    refine h.matches settled h' ?_ (run_logins p seed clock 0 moves) (run_logins p seed clock 0 moves')
    rw [h'.errands, he, h.errandsIn_eq]
    simp [s₀, ofSeed, initial]

def primesAndLogin : List Move :=
  [.start .prime false, .start .prime false, .start (.provide "") false, .poll 0 false, .poll 1 false]

theorem serializable_primesAndLogin :
    let p := Answers.hourly.provider
    let s₀ : Session Nat := ofSeed .empty ⟨0, .utc, by decide, by decide⟩ 0
    let s := s₀.run p primesAndLogin
    s.Settled ∧ ∃ order : List Nat, order.Perm (List.range 3) ∧
      (∃ t, s₀.OneByOne p (s.errandsIn order) t) ∧
      ∀ t, s₀.OneByOne p (s.errandsIn order) t → t.Matches order s := by
  intro p s₀ s
  have still : s₀.Still p primesAndLogin := ⟨rfl, rfl, rfl, rfl, rfl, trivial⟩
  have settled : s.Settled := List.all_eq_true.mp (show s.calls.all Call.isDone = true from rfl)
  obtain ⟨order, hperm, -, ht⟩ := serializable p .hourly rfl .empty _ primesAndLogin still
    (by simp [primesAndLogin, Move.isCancel]) settled
  exact ⟨settled, order, hperm, ht⟩

end Session

end RegistryLogin
