import RegistryLogin.Proofs.Record.Reports

namespace RegistryLogin

def Shared.told {World : Type} (s : Shared World) (K : Event → Bool) : Nat :=
  s.trace.countP fun entry => K entry.event

lemma Writes.told {World : Type} {call : Nat} {s t : Shared World} {lines : List Line}
    (h : Writes call s t lines) (K : Event → Bool) :
    t.told K = s.told K + lines.countP fun l => K l.event := by
  rw [Shared.told, h.trace, List.countP_append, List.countP_map]
  rfl

def tallied (f : Call → Bool) (call : Option Call) : Nat := if call.any f then 1 else 0

@[simp] lemma tallied_none (f : Call → Bool) : tallied f none = 0 := rfl

@[simp] lemma tallied_some (f : Call → Bool) (call : Call) :
    tallied f (some call) = if f call then 1 else 0 := rfl

namespace Session

variable {World Client : Type} {p : Provider World Client} {s : Session World}

lemma onCall_countP (f : Phase → Shared World → Shared World × Phase) (id : Nat) (g : Call → Bool) :
    (s.onCall f id).calls.countP g + tallied g s.calls[id]? =
      s.calls.countP g + tallied g (s.onCall f id).calls[id]? := by
  cases hc : s.calls[id]? with
  | none => rw [onCall_none s f hc, hc]
  | some call =>
    obtain ⟨hi, he⟩ := List.getElem?_eq_some_iff.mp hc
    have counted : g call = true → 0 < s.calls.countP g := fun hg =>
      List.countP_pos_iff.mpr ⟨call, List.mem_of_getElem? hc, hg⟩
    rw [onCall_some s f hc, List.countP_set hi, he, List.getElem?_set_self hi]
    simp only [tallied_some]
    split
    · rename_i hg
      have pos := counted hg
      omega
    · omega

lemma countP_calls (m : Move) (g : Call → Bool) :
    (s.move p m).calls.countP g + tallied g s.calls[s.callOf m]? =
      s.calls.countP g + tallied g (s.move p m).calls[s.callOf m]? := by
  cases m with
  | start errand favoured => simp [move, callOf, List.countP_append, List.countP_singleton]
  | poll id favoured => exact onCall_countP _ id g
  | cancel id => exact onCall_countP _ id g
  | turn clock => rfl

lemma move_calls_other (m : Move) {i : Nat} (h : i ≠ s.callOf m) :
    (s.move p m).calls[i]? = s.calls[i]? := by
  have elsewhere (f : Phase → Shared World → Shared World × Phase) (id : Nat) (hi : i ≠ id) :
      (s.onCall f id).calls[i]? = s.calls[i]? := by
    cases hc : s.calls[id]? with
    | none => rw [onCall_none s f hc]
    | some call =>
      rw [onCall_some s f hc]
      exact List.getElem?_set_ne hi.symm
  cases m with
  | start errand favoured =>
    rcases Nat.lt_or_gt_of_ne (show i ≠ s.calls.length from h) with hi | hi
    · simp [move, List.getElem?_append_left hi]
    · rw [List.getElem?_eq_none (Nat.le_of_lt hi), List.getElem?_eq_none]
      simpa [move] using Nat.succ_le_of_lt hi
  | poll id favoured => exact elsewhere _ id h
  | cancel id => exact elsewhere _ id h
  | turn clock => rfl

lemma ofSeed_onErrand (seed : TokenCache) (clock : Instant) (world : World) :
    (ofSeed seed clock world).OnErrand p := by
  intro i call hi
  simp [ofSeed, initial] at hi

lemma run_onErrand (h : s.OnErrand p) (moves : List Move) : (s.run p moves).OnErrand p := by
  induction moves generalizing s with
  | nil => exact h
  | cons m moves ih => exact ih (move_onErrand h m)

lemma run_calls {P : Call → Prop}
    (step : ∀ (s : Session World) (m : Move) (lines : List Line), s.Reports p m lines →
      (∀ call : Call, s.calls[s.callOf m]? = some call → P call) →
      ∀ call : Call, (s.move p m).calls[s.callOf m]? = some call → P call)
    (hf : s.OnErrand p) (h : ∀ (i : Nat) (call : Call), s.calls[i]? = some call → P call)
    (moves : List Move) (i : Nat) (call : Call) (hc : (s.run p moves).calls[i]? = some call) :
    P call := by
  induction moves generalizing s with
  | nil => exact h i call hc
  | cons m moves ih =>
    refine ih (move_onErrand hf m) ?_ hc
    intro i call hi
    obtain ⟨lines, -, reports⟩ := move_written p hf m
    by_cases own : i = s.callOf m
    · exact step s m lines reports (h _) call (own ▸ hi)
    · exact h i call ((move_calls_other m own).symm.trans hi)

section

variable {g : Event → Bool} {f : Call → Bool}
variable (step : ∀ (s : Session World) (m : Move) (lines : List Line), s.Reports p m lines →
  lines.countP (fun l => g l.event) + tallied f s.calls[s.callOf m]? =
    tallied f (s.move p m).calls[s.callOf m]?)
include step

lemma run_counted_from (hf : s.OnErrand p)
    (h : s.shared.told g = s.calls.countP f) (moves : List Move) :
    (s.run p moves).shared.told g = (s.run p moves).calls.countP f := by
  induction moves generalizing s with
  | nil => exact h
  | cons m moves ih =>
    apply ih (move_onErrand hf m)
    obtain ⟨lines, writes, reports⟩ := move_written p hf m
    have added := writes.told g
    have moved := countP_calls (p := p) (s := s) m f
    have counted := step s m lines reports
    omega

lemma run_counted (seed : TokenCache) (clock : Instant) (world : World) (moves : List Move) :
    ((ofSeed seed clock world).run p moves).shared.told g =
      ((ofSeed seed clock world).run p moves).calls.countP f :=
  run_counted_from step (ofSeed_onErrand seed clock world) rfl moves

end

section

variable {value : SearchCount → UInt64} {f : Call → Bool}
variable (step : ∀ (s : Session World) (m : Move) (lines : List Line), s.Reports p m lines →
  value (s.move p m).shared.side.count + .ofNat (tallied f s.calls[s.callOf m]?) =
    value s.shared.side.count + .ofNat (tallied f (s.move p m).calls[s.callOf m]?))
include step

lemma run_gauged_from (hf : s.OnErrand p)
    (h : value s.shared.side.count = .ofNat (s.calls.countP f)) (moves : List Move) :
    value (s.run p moves).shared.side.count = .ofNat ((s.run p moves).calls.countP f) := by
  induction moves generalizing s with
  | nil => exact h
  | cons m moves ih =>
    apply ih (move_onErrand hf m)
    obtain ⟨lines, -, reports⟩ := move_written p hf m
    have moved := countP_calls (p := p) (s := s) m f
    have gauged := step s m lines reports
    rw [h, ← UInt64.ofNat_add, ← moved, UInt64.ofNat_add] at gauged
    exact (UInt64.add_left_inj _).mp gauged

lemma run_gauged (zero : value ⟨0, 0, 0⟩ = 0) (seed : TokenCache) (clock : Instant) (world : World)
    (moves : List Move) :
    value ((ofSeed seed clock world).run p moves).shared.side.count =
      .ofNat (((ofSeed seed clock world).run p moves).calls.countP f) :=
  run_gauged_from step (ofSeed_onErrand seed clock world) zero moves

end

end Session

end RegistryLogin
