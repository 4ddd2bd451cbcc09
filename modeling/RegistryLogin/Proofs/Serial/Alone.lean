import RegistryLogin.Proofs.Calls.Jobs

/-! Calls on their own: one is made and polled until it is done, then the next. -/

namespace RegistryLogin

namespace Session

variable {World Client : Type} (p : Provider World Client)

def polls (id n : Nat) : List Move := List.replicate n (.poll id false)

def Alone (s : Session World) (errand : Errand) (t : Session World) : Prop :=
  ∃ n, t = s.run p (.start errand false :: polls s.calls.length n) ∧
    ∃ call, t.calls[s.calls.length]? = some call ∧ call.isDone = true

inductive OneByOne : Session World → List Errand → Session World → Prop
  | nil (s : Session World) : OneByOne s [] s
  | cons {s t u : Session World} {errand : Errand} {errands : List Errand}
      (alone : s.Alone p errand t) (rest : OneByOne t errands u) : OneByOne s (errand :: errands) u

def Ends (s : Session World) (id : Nat) : Prop :=
  ∃ n call, (s.run p (polls id n)).calls[id]? = some call ∧ call.isDone = true

variable {p} {s t : Session World} {id : Nat} {errand : Errand} {phase : Phase}

lemma ends_of_done {ending : Ending} (h : s.calls[id]? = some ⟨errand, .done ending⟩) : s.Ends p id :=
  ⟨0, _, h, rfl⟩

lemma ends_of_poll (h : s.calls[id]? = some ⟨errand, phase⟩)
    (next : ∀ (t : Session World) z phase', t.calls[id]? = some ⟨errand, phase'⟩ →
      p.Polled id false s.shared.side phase z phase' → t.Ends p id) : s.Ends p id := by
  have hl : id < s.calls.length := (List.getElem?_eq_some_iff.mp h).1
  have hp := p.poll_polled id false phase s.shared
  have hm := s.move_poll p h false
  obtain ⟨n, call, hc, hd⟩ := next (s.move p (.poll id false)) _ _
    (by rw [hm, List.getElem?_set_self hl]) hp
  exact ⟨n + 1, call, hc, hd⟩

lemma ends_of_exchanging {host : String} {token : IdentityToken} {pauses : Nat}
    {outcome : Except Cause (Option Secret)}
    (h : s.calls[id]? = some ⟨errand, .exchanging host token ⟨pauses, outcome⟩⟩) : s.Ends p id := by
  induction pauses generalizing s with
  | zero =>
    apply ends_of_poll h
    intro t z phase' ht hp
    cases hp with
    | exchanging answered =>
      cases answered with
      | settled => exact ends_of_done ht
  | succ pauses ih =>
    apply ends_of_poll h
    intro t z phase' ht hp
    cases hp with
    | exchanging answered =>
      cases answered with
      | pending => exact ih ht

lemma ends_of_connected {host : String} {token : IdentityToken} {now : Instant}
    {world world' : World} (h : p.Connected host token now world world' phase)
    (ht : t.calls[id]? = some ⟨errand, phase⟩) : t.Ends p id := by
  cases h with
  | noUrl => exact ends_of_done ht
  | noClient => exact ends_of_done ht
  | opened _ _ _ answered =>
    cases answered with
    | pending => exact ends_of_exchanging ht
    | settled => exact ends_of_done ht

lemma ends_of_concluded {y z : IdentitySide World} {job : Job} {r : Progress IdentityToken}
    (h : p.Concluded y job r z phase) (ht : t.calls[id]? = some ⟨errand, phase⟩)
    (hr : ∀ phase, r = .suspended phase → t.calls[id]? = some ⟨errand, phase⟩ → t.Ends p id) :
    t.Ends p id := by
  cases h with
  | suspended => exact hr _ rfl ht
  | overflowed => exact ends_of_done ht
  | failed => exact ends_of_done ht
  | primed => exact ends_of_done ht
  | connected h => exact ends_of_connected h ht

lemma ends_of_refreshing {job : Job} {pauses : Nat} {outcome : Except Cause Issued}
    (h : s.calls[id]? = some ⟨errand, .refreshing job ⟨pauses, outcome⟩⟩) : s.Ends p id := by
  induction pauses generalizing s with
  | zero =>
    apply ends_of_poll h
    intro t z phase' ht hp
    cases hp with
    | refreshing heard concluded =>
      apply ends_of_concluded concluded ht
      intro phase hr
      cases heard <;> cases hr
  | succ pauses ih =>
    apply ends_of_poll h
    intro t z phase' ht hp
    cases hp with
    | refreshing heard concluded =>
      cases heard with
      | pending =>
        apply ends_of_concluded concluded ht
        intro phase hr ht
        cases hr
        exact ih ht

end Session

namespace Provider

variable {World Client : Type} {p : Provider World Client} {call : Nat} {job : Job}
variable {x y : IdentitySide World} {r : Progress IdentityToken} {phase : Phase}

lemma Heard.refreshing {answer : Delayed (Except Cause Issued)} (h : Heard call job x answer y r)
    (hr : r = .suspended phase) : ∃ answer, phase = .refreshing job answer := by
  cases h with
  | pending =>
    cases hr
    exact ⟨_, rfl⟩
  | failed => cases hr
  | panicked => cases hr
  | returned => cases hr

lemma Sought.refreshing {favoured : Bool} (h : Sought p call job favoured x .away y r)
    (free : x.guard.admits call favoured = true) (hr : r = .suspended phase) :
    ∃ answer, phase = .refreshing job answer := by
  cases h with
  | overflowed => cases hr
  | reused => cases hr
  | queued _ busy => simp [free] at busy
  | entered _ _ renewed =>
    cases renewed with
    | overflowed => cases hr
    | reused => cases hr
    | asked _ heard => exact heard.refreshing hr

end Provider

namespace Session

variable {World Client : Type} {p : Provider World Client} {s t : Session World}

theorem alone_exists (free : s.shared.guard = .free) (errand : Errand) : ∃ t, s.Alone p errand t := by
  have hs := p.start_started s.calls.length false errand s.shared
  have hc : (s.move p (.start errand false)).calls[s.calls.length]? =
      some ⟨errand, (p.start s.calls.length errand false s.shared).2⟩ := by
    simp [move]
  have he : (s.move p (.start errand false)).Ends p s.calls.length := by
    generalize (p.start s.calls.length errand false s.shared).2 = phase at hs hc
    generalize (p.start s.calls.length errand false s.shared).1.side = z at hs
    cases hs with
    | unresolved => exact ends_of_done hc
    | sought _ sought concluded =>
      apply ends_of_concluded concluded hc
      intro phase hr hc
      have hadm : s.shared.side.guard.admits s.calls.length false = true := by
        change s.shared.guard.admits s.calls.length false = true
        simp [free, Guard.free, Guard.admits]
      obtain ⟨answer, rfl⟩ := sought.refreshing hadm hr
      exact ends_of_refreshing hc
  obtain ⟨n, call, hcall, hd⟩ := he
  exact ⟨_, n, rfl, call, hcall, hd⟩

lemma onCall_elsewhere (f : Phase → Shared World → Shared World × Phase) {id i : Nat} (hi : i ≠ id) :
    (s.onCall f id).calls[i]? = s.calls[i]? := by
  cases hc : s.calls[id]? with
  | none => rw [onCall_none s f hc]
  | some call => rw [onCall_some s f hc, List.getElem?_set_ne hi.symm]

lemma polls_errands (id n : Nat) :
    (s.run p (polls id n)).calls.map (·.errand) = s.calls.map (·.errand) := by
  induction n generalizing s with
  | zero => rfl
  | succ n ih => exact (ih (s := s.move p (.poll id false))).trans (onCall_errands s (p.poll id · false) id)

lemma polls_elsewhere {id i : Nat} (n : Nat) (hi : i ≠ id) :
    (s.run p (polls id n)).calls[i]? = s.calls[i]? := by
  induction n generalizing s with
  | zero => rfl
  | succ n ih => exact (ih (s := s.move p (.poll id false))).trans (onCall_elsewhere _ hi)

lemma Alone.errands {errand : Errand} (h : s.Alone p errand t) :
    t.calls.map (·.errand) = s.calls.map (·.errand) ++ [errand] := by
  obtain ⟨n, rfl, -⟩ := h
  refine (polls_errands (s := s.move p (.start errand false)) s.calls.length n).trans ?_
  simp [move]

lemma Alone.done {errand : Errand} (h : s.Alone p errand t) (hd : ∀ call ∈ s.calls, call.isDone = true) :
    ∀ call ∈ t.calls, call.isDone = true := by
  have hlen : t.calls.length = s.calls.length + 1 := by
    have he := congrArg List.length h.errands
    simpa using he
  obtain ⟨n, rfl, call, hc, hcd⟩ := h
  intro c hmem
  obtain ⟨i, hi⟩ := List.mem_iff_getElem?.mp hmem
  by_cases hid : i = s.calls.length
  · rw [hid, hc] at hi
    exact Option.some.inj hi ▸ hcd
  · have hlt : i < s.calls.length := by
      have := (List.getElem?_eq_some_iff.mp hi).1
      omega
    have he : (s.move p (.start errand false)).calls[i]? = some c :=
      (polls_elsewhere (s := s.move p (.start errand false)) n hid).symm.trans hi
    rw [move, List.getElem?_append_left hlt] at he
    exact hd c (List.mem_of_getElem? he)

lemma OneByOne.exists_moves {errands : List Errand} (h : s.OneByOne p errands t) :
    ∃ moves, t = s.run p moves := by
  induction h with
  | nil s => exact ⟨[], rfl⟩
  | cons alone rest ih =>
    obtain ⟨n, rfl, -⟩ := alone
    obtain ⟨moves, rfl⟩ := ih
    exact ⟨_ ++ moves, (List.foldl_append ..).symm⟩

end Session

end RegistryLogin
