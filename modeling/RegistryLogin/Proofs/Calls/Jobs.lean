import RegistryLogin.Proofs.Calls.Moves

namespace RegistryLogin

namespace Phase

def job? : Phase → Option Job
  | .waiting job => some job
  | .refreshing job _ => some job
  | .exchanging host _ _ => some (.login host)
  | .done _ => none

def Seeks (job : Job) : Phase → Prop
  | .waiting j => j = job
  | .refreshing j _ => j = job
  | _ => False

lemma Seeks.job? {job : Job} {phase : Phase} (h : phase.Seeks job) : phase.job? = some job := by
  cases phase with
  | waiting => exact congrArg some h
  | refreshing => exact congrArg some h
  | exchanging => cases h
  | done => cases h

end Phase

namespace Provider

variable {World Client : Type} {p : Provider World Client} {call : Nat} {job : Job}
variable {x y z : IdentitySide World} {r : Progress IdentityToken} {phase phase' : Phase}

lemma Heard.keeps {answer : Delayed (Except Cause Issued)} (h : Heard call job x answer y r)
    (hr : r = .suspended phase) : phase.Seeks job := by
  cases h with
  | pending =>
    cases hr
    rfl
  | failed => cases hr
  | panicked => cases hr
  | returned => cases hr

lemma Renewed.keeps (h : Renewed p call job x y r) (hr : r = .suspended phase) :
    phase.Seeks job := by
  cases h with
  | overflowed => cases hr
  | reused => cases hr
  | asked _ heard => exact heard.keeps hr

lemma Sought.keeps {favoured : Bool} {a : Standing} (h : Sought p call job favoured x a y r)
    (hr : r = .suspended phase) : phase.Seeks job := by
  cases h with
  | overflowed => cases hr
  | reused => cases hr
  | queued =>
    cases hr
    rfl
  | entered _ _ renewed => exact renewed.keeps hr
  | waited =>
    cases hr
    rfl
  | admitted _ renewed => exact renewed.keeps hr
  | heard heard => exact heard.keeps hr

lemma Answered.keeps {host : String} {token : IdentityToken} {now : Instant}
    {answer : Delayed (Except Cause (Option Secret))} (h : Answered host token now answer phase)
    {j : Job} (hj : phase.job? = some j) : j = .login host := by
  cases h with
  | pending => exact (Option.some.inj hj).symm
  | settled => cases hj

lemma Connected.keeps {host : String} {token : IdentityToken} {now : Instant} {world world' : World}
    (h : Connected p host token now world world' phase) {j : Job} (hj : phase.job? = some j) :
    j = .login host := by
  cases h with
  | noUrl => cases hj
  | noClient => cases hj
  | opened _ _ _ answered => exact answered.keeps hj

lemma Concluded.keeps (h : Concluded p y job r z phase')
    (hr : ∀ phase, r = .suspended phase → phase.Seeks job) {j : Job}
    (hj : phase'.job? = some j) : j = job := by
  cases h with
  | suspended => exact Option.some.inj (hj.symm.trans (hr phase' rfl).job?)
  | overflowed => cases hj
  | failed => cases hj
  | primed => cases hj
  | connected h => exact h.keeps hj

lemma Started.keeps {favoured : Bool} {errand : Errand} (h : Started p call favoured errand x z phase)
    {j : Job} (hj : phase.job? = some j) : p.jobOf errand = .ok j := by
  cases h with
  | unresolved => cases hj
  | sought h sought concluded => rw [h, concluded.keeps (fun _ => sought.keeps) hj]

lemma Polled.keeps {favoured : Bool} (h : Polled p call favoured x phase z phase') {j : Job}
    (hj : phase'.job? = some j) : phase.job? = some j := by
  cases h with
  | waiting sought concluded => rw [concluded.keeps (fun _ => sought.keeps) hj, Phase.job?]
  | refreshing heard concluded => rw [concluded.keeps (fun _ => heard.keeps) hj, Phase.job?]
  | exchanging answered => rw [answered.keeps hj, Phase.job?]
  | done => exact hj

lemma cancel_keeps {s : Shared World} {j : Job} (hj : (cancel call phase s).2.job? = some j) :
    phase.job? = some j := by
  cases phase with
  | waiting => cases hj
  | refreshing => cases hj
  | exchanging => cases hj
  | done => exact hj

end Provider

namespace Session

variable {World Client : Type} {p : Provider World Client} {s : Session World}

lemma errands_set {calls : List Call} {id : Nat} {call : Call} (h : calls[id]? = some call)
    (phase : Phase) :
    (calls.set id { call with phase := phase }).map (·.errand) = calls.map (·.errand) := by
  obtain ⟨hi, rfl⟩ := List.getElem?_eq_some_iff.mp h
  rw [List.map_set]
  apply List.ext_getElem
  · simp
  intro n hn hn'
  by_cases hin : id = n
  · subst hin
    simp
  · rw [List.getElem_set_ne hin]

lemma onCall_errands (s : Session World) (f : Phase → Shared World → Shared World × Phase) (id : Nat) :
    (s.onCall f id).calls.map (·.errand) = s.calls.map (·.errand) := by
  cases hc : s.calls[id]? with
  | none => rw [onCall_none s f hc]
  | some call => rw [onCall_some s f hc, errands_set hc]

def Idle (s : Session World) (id : Nat) : Prop :=
  ∀ call, s.calls[id]? = some call → call.phase.job? = none

lemma idle_or_running (s : Session World) (id : Nat) :
    s.Idle id ∨ ∃ call job, s.calls[id]? = some call ∧ call.phase.job? = some job := by
  cases hc : s.calls[id]? with
  | none => exact .inl fun call h => by simp [hc] at h
  | some call =>
    cases hj : call.phase.job? with
    | none => exact .inl fun c h => by rwa [← Option.some.inj (hc.symm.trans h)]
    | some job => exact .inr ⟨call, job, rfl, hj⟩

lemma Idle.onCall {id : Nat} (h : s.Idle id) {f : Phase → Shared World → Shared World × Phase}
    (hf : ∀ ending, f (.done ending) s.shared = (s.shared, .done ending)) : s.onCall f id = s := by
  cases hc : s.calls[id]? with
  | none => exact onCall_none s f hc
  | some call =>
    obtain ⟨errand, _ | _ | _ | ending⟩ := call
    · cases h _ hc
    · cases h _ hc
    · cases h _ hc
    · obtain ⟨hi, he⟩ := List.getElem?_eq_some_iff.mp hc
      rw [onCall_some s f hc]
      simp only [hf]
      rw [← he, List.set_getElem_self]

lemma Idle.move_poll {id : Nat} (h : s.Idle id) (favoured : Bool) :
    s.move p (.poll id favoured) = s :=
  h.onCall (f := (p.poll id · favoured)) fun _ => rfl

lemma Idle.move_cancel {id : Nat} (h : s.Idle id) : s.move p (.cancel id) = s :=
  h.onCall (f := Provider.cancel id) fun _ => rfl

variable (p)

def OnErrand (s : Session World) : Prop :=
  ∀ (i : Nat) (call : Call), s.calls[i]? = some call → ∀ job, call.phase.job? = some job →
    p.jobOf call.errand = .ok job

variable {p}

lemma onCall_onErrand (h : s.OnErrand p) {f : Phase → Shared World → Shared World × Phase} {id : Nat}
    (hf : ∀ phase s job, (f phase s).2.job? = some job → phase.job? = some job) :
    (s.onCall f id).OnErrand p := by
  cases hc : s.calls[id]? with
  | none =>
    rw [onCall_none s f hc]
    exact h
  | some call =>
    have hi : id < s.calls.length := (List.getElem?_eq_some_iff.mp hc).1
    rw [onCall_some s f hc]
    intro i c hi' job hj
    by_cases hid : id = i
    · subst hid
      obtain rfl : _ = c := Option.some.inj ((List.getElem?_set_self hi).symm.trans hi')
      exact h id call hc job (hf _ _ job hj)
    · exact h i c ((List.getElem?_set_ne hid).symm.trans hi') job hj

lemma move_onErrand (h : s.OnErrand p) (m : Move) : (s.move p m).OnErrand p := by
  cases m with
  | start errand favoured =>
    intro i c hi job hj
    rcases Nat.lt_trichotomy i s.calls.length with hl | rfl | hl
    · exact h i c ((List.getElem?_append_left hl).symm.trans hi) job hj
    · obtain rfl : _ = c := by simpa [move] using hi
      exact (p.start_started _ favoured errand s.shared).keeps hj
    · rw [move, List.getElem?_eq_none (by simpa using Nat.succ_le_of_lt hl)] at hi
      simp at hi
  | poll id favoured =>
    exact onCall_onErrand h fun phase s _ hj => (p.poll_polled id favoured phase s).keeps hj
  | cancel id => exact onCall_onErrand h fun _ _ _ hj => Provider.cancel_keeps hj
  | turn clock => exact h

end Session

end RegistryLogin
