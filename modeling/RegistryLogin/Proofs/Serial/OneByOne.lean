import Mathlib.Data.List.Forall2
import RegistryLogin.Proofs.Calls.Logins
import RegistryLogin.Proofs.Serial.Alone
import RegistryLogin.Proofs.Serial.Linearization

namespace RegistryLogin

namespace Session

variable {Client : Type} {p : Provider Nat Client} {a : Answers Client} {now : Instant}
variable {stock : Stock} {s t : Session Nat} {log : List Served} {errand : Errand}

def Settled {World : Type} (s : Session World) : Prop := ∀ call ∈ s.calls, call.isDone = true

lemma isDone_iff {call : Call} : call.isDone = true ↔ ∃ ending, call.phase = .done ending := by
  obtain ⟨errand, _ | _ | _ | ending⟩ := call <;> simp [Call.isDone]

namespace Linear

section

variable (h : s.Linear p a now stock log)
include h

lemma mem_of_done {i : Nat} {call : Call} (hc : s.calls[i]? = some call) (hd : call.isDone = true) :
    i ∈ log.map (·.call) := by
  by_cases hi : i ∈ log.map (·.call)
  · exact hi
  · obtain ⟨ending, he⟩ := isDone_iff.mp hd
    exact absurd (by rw [he]; rfl) (h.unserved i call hc hi)

lemma perm (hd : s.Settled) : (log.map (·.call)).Perm (List.range s.calls.length) := by
  apply (List.perm_ext_iff_of_nodup h.nodup List.nodup_range).mpr
  intro i
  rw [List.mem_range]
  constructor
  · intro hi
    obtain ⟨call, hc⟩ := h.exists_call hi
    exact (List.getElem?_eq_some_iff.mp hc).1
  · intro hi
    have hc := List.getElem?_eq_getElem hi
    exact h.mem_of_done hc (hd _ (List.getElem_mem hi))

lemma ended (hd : s.Settled) {e : Served} (he : e ∈ log) :
    s.calls[e.call]? = some ⟨e.errand, .done (p.endingOf a now e.service)⟩ := by
  obtain ⟨phase, hc, hb⟩ := h.served e he
  obtain ⟨ending, hp⟩ := isDone_iff.mp (hd _ (List.mem_of_getElem? hc))
  change phase = .done ending at hp
  subst hp
  rw [hc, show ending = p.endingOf a now e.service from hb]

lemma free (hd : s.Settled) : s.shared.guard = .free := by
  have hs : ∀ i, s.standing i = .away := by
    intro i
    cases hc : s.calls[i]? with
    | none => simp [standing, hc]
    | some call =>
      obtain ⟨ending, hp⟩ := isDone_iff.mp (hd call (List.mem_of_getElem? hc))
      rw [standing_of_call hc, hp]
      rfl
  exact h.guarded.eq_free hs

variable (hp : p.collaborators = a.collaborators)
include hp

lemma polls (id n : Nat) : ∃ new, (s.run p (polls id n)).Linear p a now stock (log ++ new) := by
  induction n generalizing s log with
  | zero => exact ⟨[], by rw [List.append_nil]; exact h⟩
  | succ n ih =>
    obtain ⟨new, hn, -⟩ := h.poll hp id false
    obtain ⟨new', hn'⟩ := ih hn
    exact ⟨new ++ new', by rw [← List.append_assoc]; exact hn'⟩

lemma alone (ha : s.Alone p errand t) : ∃ new, t.Linear p a now stock (log ++ new) := by
  obtain ⟨n, rfl, -⟩ := ha
  obtain ⟨new, hn, -⟩ := h.start hp errand false
  obtain ⟨new', hn'⟩ := hn.polls hp s.calls.length n
  exact ⟨new ++ new', by rw [← List.append_assoc]; exact hn'⟩

end

end Linear

structure InOrder (p : Provider Nat Client) (a : Answers Client) (now : Instant) (stock : Stock)
    (s : Session Nat) (log : List Served) : Prop where
  linear : s.Linear p a now stock log
  settled : s.Settled
  order : log.map (·.call) = List.range s.calls.length

namespace InOrder

variable (h : s.InOrder p a now stock log)
include h

lemma call_eq {k : Nat} (hk : k < log.length) : log[k].call = k := by
  have hl : k < (log.map (·.call)).length := by simpa using hk
  have he := List.getElem_of_eq h.order hl
  simpa using he

lemma errands : log.map (·.errand) = s.calls.map (·.errand) := by
  have hl : log.length = s.calls.length := by simpa using congrArg List.length h.order
  apply List.ext_getElem
  · simp [hl]
  intro k hk hk'
  have hk : k < log.length := by simpa using hk
  obtain ⟨phase, hc, -⟩ := h.linear.served log[k] (List.getElem_mem hk)
  rw [h.call_eq hk] at hc
  simp [(List.getElem?_eq_some_iff.mp hc).2]

variable (hp : p.collaborators = a.collaborators)
include hp

lemma alone (ha : s.Alone p errand t) : ∃ log', t.InOrder p a now stock log' := by
  obtain ⟨new, hn⟩ := h.linear.alone hp ha
  have hd := ha.done h.settled
  refine ⟨log ++ new, hn, hd, ?_⟩
  have hl : t.calls.length = s.calls.length + 1 := by
    simpa using congrArg List.length ha.errands
  have hperm := hn.perm hd
  rw [hl, List.range_succ, List.map_append, h.order, List.perm_append_left_iff,
    List.perm_singleton] at hperm
  rw [List.map_append, h.order, hperm, hl, List.range_succ]

lemma oneByOne {errands : List Errand} (ho : OneByOne p s errands t) :
    ∃ log', t.InOrder p a now stock log' ∧
      t.calls.map (·.errand) = s.calls.map (·.errand) ++ errands := by
  induction ho generalizing log with
  | nil s => exact ⟨log, h, by simp⟩
  | cons alone rest ih =>
    obtain ⟨log', h'⟩ := h.alone hp alone
    obtain ⟨log'', h'', he⟩ := ih h'
    refine ⟨log'', h'', ?_⟩
    rw [he, alone.errands, List.append_assoc, List.singleton_append]

lemma exists_oneByOne (errands : List Errand) : ∃ t, OneByOne p s errands t := by
  induction errands generalizing s log with
  | nil => exact ⟨s, .nil s⟩
  | cons errand errands ih =>
    obtain ⟨t, ha⟩ := alone_exists (p := p) (h.linear.free h.settled) errand
    obtain ⟨log', h'⟩ := h.alone hp ha
    obtain ⟨u, hu⟩ := ih h'
    exact ⟨u, .cons ha hu⟩

end InOrder

end Session

end RegistryLogin
