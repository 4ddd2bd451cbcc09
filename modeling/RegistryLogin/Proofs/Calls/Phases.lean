import RegistryLogin.Proofs.Calls.Jobs

namespace RegistryLogin.Session

variable {World Client : Type} (p : Provider World Client) (s : Session World)

lemma phaseOf_of_call {id : Nat} {call : Call} (h : s.calls[id]? = some call) :
    s.phaseOf id = some call.phase := by
  rw [phaseOf, h]
  rfl

lemma phaseOf_length : s.phaseOf s.calls.length = none := by
  simp [phaseOf]

structure Quiet (m : Move) : Prop where
  contacts : (s.move p m).shared.contacts = s.shared.contacts
  requests : (s.move p m).shared.requests = s.shared.requests

inductive Fares (m : Move) : Prop
  | idle (phase : (s.move p m).phaseOf (s.callOf m) = s.phaseOf (s.callOf m)) (quiet : s.Quiet p m)
  | unresolved {error : HostError}
      (phase : (s.move p m).phaseOf (s.callOf m) =
        some (.done (.returned (.error (.hostResolution error))))) (quiet : s.Quiet p m)
  | pursued {job : Job} {favoured : Bool} {next : Phase}
      (before : ∀ phase, s.phaseOf (s.callOf m) = some phase → phase.Seeks job)
      (pursued : p.Pursued (s.callOf m) job favoured s.shared (s.standing (s.callOf m))
        (s.move p m).shared next)
      (phase : (s.move p m).phaseOf (s.callOf m) = some next)
  | exchanging {host : String} {token : IdentityToken} {next : Phase}
      {answer : Delayed (Except Cause (Option Secret))}
      (before : s.phaseOf (s.callOf m) = some (.exchanging host token answer))
      (answered : Provider.Answered host token s.shared.clock answer next)
      (phase : (s.move p m).phaseOf (s.callOf m) = some next) (quiet : s.Quiet p m)
  | cancelled {stage : Stage}
      (phase : (s.move p m).phaseOf (s.callOf m) = some (.done (.cancelled stage)))
      (quiet : s.Quiet p m)

lemma start_fares (errand : Errand) (favoured : Bool) : s.Fares p (.start errand favoured) := by
  have phase : (s.move p (.start errand favoured)).phaseOf s.calls.length =
      some (p.start s.calls.length errand favoured s.shared).2 := by
    simp [move, phaseOf]
  cases hj : p.jobOf errand with
  | error error =>
    obtain ⟨side, requests, next⟩ := p.start_unresolved s.calls.length favoured hj s.shared
    exact .unresolved (phase.trans (congrArg some next))
      ⟨congrArg IdentitySide.contacts side, requests⟩
  | ok job =>
    have pursued := p.start_pursued s.calls.length favoured hj s.shared
    have stands : s.standing s.calls.length = .away := by rw [standing_eq, phaseOf_length]; rfl
    have before : ∀ phase, s.phaseOf s.calls.length = some phase → phase.Seeks job := by
      simp [phaseOf_length]
    exact .pursued before (stands ▸ pursued) phase

lemma fares_of_same {m : Move} (h : s.move p m = s) : s.Fares p m :=
  .idle (by rw [h]) ⟨by rw [h], by rw [h]⟩

lemma poll_fares (id : Nat) (favoured : Bool) : s.Fares p (.poll id favoured) := by
  rcases s.idle_or_running id with hi | ⟨⟨errand, phase⟩, job, hc, hj⟩
  · exact fares_of_same p s (hi.move_poll favoured)
  · have hi : id < s.calls.length := (List.getElem?_eq_some_iff.mp hc).1
    have before : s.phaseOf id = some phase := s.phaseOf_of_call hc
    have stands : s.standing id = phase.standing := by rw [standing_eq, before]; rfl
    have hm := s.move_poll p hc favoured
    have after : (s.move p (.poll id favoured)).phaseOf id =
        some (p.poll id phase favoured s.shared).2 := by simp [hm, phaseOf, hi]
    have shared : (s.move p (.poll id favoured)).shared =
        (p.poll id phase favoured s.shared).1 := by rw [hm]
    cases phase with
    | waiting job =>
      have before' : ∀ phase, s.phaseOf id = some phase → phase.Seeks job := by
        simp [before, Phase.Seeks]
      have pursued := p.poll_waiting id favoured job s.shared
      rw [← shared, show Standing.queued = s.standing id from stands.symm] at pursued
      exact .pursued before' pursued after
    | refreshing job answer =>
      have before' : ∀ phase, s.phaseOf id = some phase → phase.Seeks job := by
        simp [before, Phase.Seeks]
      have pursued := p.poll_refreshing id favoured job answer s.shared
      rw [← shared, show Standing.asking answer = s.standing id from stands.symm] at pursued
      exact .pursued before' pursued after
    | exchanging host token answer =>
      obtain ⟨side, requests, answered⟩ := p.poll_exchanging id favoured host token answer s.shared
      rw [← shared] at side requests
      exact .exchanging before answered after ⟨congrArg IdentitySide.contacts side, requests⟩
    | done ending => cases hj

lemma cancel_fares (id : Nat) : s.Fares p (.cancel id) := by
  rcases s.idle_or_running id with hi | ⟨⟨errand, phase⟩, job, hc, hj⟩
  · exact fares_of_same p s hi.move_cancel
  · have hi : id < s.calls.length := (List.getElem?_eq_some_iff.mp hc).1
    have hm := s.move_cancel p hc
    have after : (s.move p (.cancel id)).phaseOf id =
        some (Provider.cancel id phase s.shared).2 := by simp [hm, phaseOf, hi]
    have shared : (s.move p (.cancel id)).shared = (Provider.cancel id phase s.shared).1 := by rw [hm]
    cases phase with
    | waiting =>
      rw [Provider.cancel_waiting] at shared
      exact .cancelled after ⟨by rw [shared]; rfl, by rw [shared]; rfl⟩
    | refreshing =>
      rw [Provider.cancel_refreshing] at shared
      exact .cancelled after ⟨by rw [shared]; rfl, by rw [shared]; rfl⟩
    | exchanging => exact .cancelled after ⟨by rw [shared]; rfl, by rw [shared]; rfl⟩
    | done => cases hj

theorem move_fares (m : Move) : s.Fares p m := by
  cases m with
  | start errand favoured => exact s.start_fares p errand favoured
  | poll id favoured => exact s.poll_fares p id favoured
  | cancel id => exact s.cancel_fares p id
  | turn clock => exact .idle rfl ⟨rfl, rfl⟩

end RegistryLogin.Session
