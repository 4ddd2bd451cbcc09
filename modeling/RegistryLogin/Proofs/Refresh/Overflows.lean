import RegistryLogin.Proofs.Calls.Phases
import RegistryLogin.Proofs.Refresh.Inquiries

/-! Calls that end because the instant at which a new token expires is out of range. -/

namespace RegistryLogin

namespace Provider

variable {World Client : Type} {p : Provider World Client} {call : Nat} {job : Job}
variable {x y z : IdentitySide World} {r : Progress IdentityToken}

lemma Heard.overflowed_iff {answer : Delayed (Except Cause Issued)} (h : Heard call job x answer y r) :
    r = .overflowed .identity ↔ answer.fate x.clock = .panicked := by
  cases h with
  | pending => simp [Delayed.fate]
  | failed => simp [Delayed.fate]
  | panicked issued ht => simp [Delayed.fate, ht]
  | returned issued token ht => simp [Delayed.fate, ht]

lemma Renewed.heard_polled (h : Renewed p call job x y r)
    (polled : .polled call ∈ y.contacts.drop x.contacts.length) :
    Heard call job (p.asked call x) (p.answerIn x.world) y r := by
  cases h with
  | overflowed => simp [IdentitySide.released] at polled
  | reused => simp [IdentitySide.released, IdentitySide.hit] at polled
  | asked _ heard => exact heard

lemma Sought.heard_polled {favoured : Bool} {a : Standing} (h : Sought p call job favoured x a y r)
    (polled : .polled call ∈ y.contacts.drop x.contacts.length) :
    ∃ x' answer, Heard call job x' answer y r ∧ x'.clock = x.clock ∧
      (a = .asking answer ∨ a.isAsking = false ∧ answer = p.answerIn x.world) := by
  cases h with
  | overflowed => simp at polled
  | reused => simp [IdentitySide.hit] at polled
  | queued => simp [IdentitySide.joinedBy] at polled
  | entered _ _ renewed => exact ⟨_, _, renewed.heard_polled polled, rfl, .inr ⟨rfl, rfl⟩⟩
  | waited => simp at polled
  | admitted _ renewed => exact ⟨_, _, renewed.heard_polled polled, rfl, .inr ⟨rfl, rfl⟩⟩
  | heard heard => exact ⟨x, _, heard, rfl, .inl rfl⟩

lemma loginEnding_ne_overflowed (host : String) (token : IdentityToken) (now : Instant)
    (outcome : Except Cause (Option Secret)) :
    loginEnding host token now outcome ≠ .overflowed .identity := by
  rcases outcome with cause | _ | secret
  · simp [loginEnding]
  · simp [loginEnding]
  · simp only [loginEnding]
    split <;> simp

lemma Connected.ne_overflowed {host : String} {token : IdentityToken} {now : Instant}
    {world world' : World} {next : Phase} (h : Connected p host token now world world' next) :
    next ≠ .done (.overflowed .identity) := by
  cases h with
  | noUrl => simp
  | noClient => simp
  | opened _ _ _ answered =>
    cases answered with
    | pending => simp
    | settled outcome => simpa using loginEnding_ne_overflowed host token now outcome

lemma Concluded.overflowed_iff {next : Phase} (h : Concluded p y job r z next)
    (running : ∀ phase, r = .suspended phase → phase.Seeks job) :
    next = .done (.overflowed .identity) ↔ r = .overflowed .identity := by
  cases h with
  | suspended phase =>
    have seeks := running next rfl
    constructor
    · rintro rfl
      cases seeks
    · intro h
      cases h
  | overflowed stage => simp
  | failed => simp
  | primed => simp
  | connected connected => simp [connected.ne_overflowed]

end Provider

namespace Session

variable {World Client : Type} {p : Provider World Client} {s : Session World} {m : Move}

lemma not_quiet {contact : Contact} (h : contact ∈ s.newContacts p m) : ¬ s.Quiet p m := by
  intro quiet
  rw [newContacts_of_same p s quiet.contacts] at h
  cases h

theorem learns_overflowed_iff {outcome : Except Cause Issued} (h : s.Learns p m outcome) :
    (s.move p m).phaseOf (s.callOf m) = some (.done (.overflowed .identity)) ↔
      Delayed.fate s.shared.clock ⟨0, outcome⟩ = .panicked := by
  obtain ⟨polled, answer⟩ := h
  cases s.move_fares p m with
  | idle _ quiet => exact absurd quiet (not_quiet polled)
  | unresolved _ quiet => exact absurd quiet (not_quiet polled)
  | exchanging _ _ _ quiet => exact absurd quiet (not_quiet polled)
  | cancelled _ quiet => exact absurd quiet (not_quiet polled)
  | @pursued job favoured next before pursued phase =>
    obtain ⟨sought, concluded, -⟩ := pursued
    obtain ⟨-, world, side⟩ := concluded.standing
    have contacts := congrArg IdentitySide.contacts side
    rw [newContacts, show (s.move p m).shared.contacts = _ from contacts] at polled
    obtain ⟨x, told, heard, clock, source⟩ := sought.heard_polled polled
    have same : told = ⟨0, outcome⟩ := by
      rw [← answer]
      rcases source with waits | ⟨aside, rfl⟩
      · rw [answerTo, waits]
      · exact (answerTo_asked aside).symm
    subst same
    rw [phase, Option.some.injEq, concluded.overflowed_iff fun _ => sought.keeps, heard.overflowed_iff,
      clock]
    rfl

end Session

end RegistryLogin
