import RegistryLogin.Proofs.Refresh.SingleFlight
import Mathlib.Data.List.Induction

/-! Where the answers of the source come from. -/

namespace RegistryLogin

variable {World Client : Type} {p : Provider World Client}

namespace Provider

variable {x y : IdentitySide World} {call : Nat} {later : Delayed (Except Cause Issued)}

lemma Heard.asking {job : Job} {answer : Delayed (Except Cause Issued)} {r : Progress IdentityToken}
    (heard : Heard call job x answer y r) (waits : r.standing = .asking later) :
    later.outcome = answer.outcome := by
  cases heard with
  | pending pauses outcome =>
    cases waits
    rfl
  | failed => cases waits
  | panicked => cases waits
  | returned => cases waits

lemma Dealing.asking {quits : Bool} {a b : Standing} (dealing : p.Dealing call x quits a y b)
    (waits : b = .asking later) :
    (∃ answer, a = .asking answer ∧ later.outcome = answer.outcome) ∨
      y.contacts = x.contacts ++ [.asked call p.identityRequest, .polled call] ∧
        later.outcome = (p.answerIn x.world).outcome := by
  cases dealing with
  | none _ aside =>
    rw [waits] at aside
    cases aside
  | polls heard => exact .inl ⟨_, rfl, heard.asking waits⟩
  | asks _ _ _ heard =>
    exact .inr ⟨heard.contacts.trans (List.append_assoc x.contacts [_] [_]), heard.asking waits⟩
  | drops => cases waits

end Provider

namespace SourceCall

lemma mem_map_settle {calls : List SourceCall} {call : Nat} {fate : Fate} {a : SourceCall}
    (h : a ∈ calls.map (settle call fate)) : a ∈ calls ∨ a.fate = fate := by
  obtain ⟨b, hb, rfl⟩ := List.mem_map.mp h
  unfold settle
  split
  · exact .inr rfl
  · exact .inl hb

lemma returned_of_latest? {calls : List SourceCall} {token : IdentityToken}
    (h : latest? calls = some token) : ∃ a ∈ calls, a.fate = .returned token := by
  obtain ⟨a, ha, found⟩ := List.exists_of_findSome?_eq_some h
  exact ⟨a, ha, Fate.eq_returned found⟩

lemma latest?_settle {calls : List SourceCall} (h : (latest? calls).isSome) (call : Nat) (fate : Fate) :
    (latest? (calls.map (settle call fate))).isSome := by
  obtain ⟨token, found⟩ := Option.isSome_iff_exists.mp h
  obtain ⟨a, ha, returned⟩ := returned_of_latest? found
  have kept : a.settle call fate = a := settle_of_settled (by rw [isPending, returned]; rfl) call fate
  rw [latest?, List.findSome?_isSome_iff]
  exact ⟨a, List.mem_map.mpr ⟨a, ha, kept⟩, by rw [returned]; rfl⟩

end SourceCall

namespace Session

variable (s : Session World) (p)

/-- In one of these moves the call has asked the source, and this was the world then. -/
def AskedIn (moves : List Move) (c : Nat) (world : World) : Prop :=
  ∃ first m, first ++ [m] <+: moves ∧ (s.run p first).callOf m = c ∧ (s.run p first).Asks p m ∧
    (s.run p first).shared.world = world

/-- In this move a call polls the source's answer and has it. -/
def Learns (m : Move) (outcome : Except Cause Issued) : Prop :=
  .polled (s.callOf m) ∈ s.newContacts p m ∧ s.answerTo p (s.callOf m) = ⟨0, outcome⟩

variable {s p} {moves longer : List Move} {m : Move} {c : Nat} {world : World}

lemma AskedIn.mono (h : s.AskedIn p moves c world) (further : moves <+: longer) :
    s.AskedIn p longer c world := by
  obtain ⟨first, m, within, asks⟩ := h
  exact ⟨first, m, within.trans further, asks⟩

theorem asking_askedIn {seed : TokenCache} {clock : Instant} {start : World}
    {answer : Delayed (Except Cause Issued)}
    (asking : ((ofSeed seed clock start).run p moves).standing c = .asking answer) :
    ∃ world, (ofSeed seed clock start).AskedIn p moves c world ∧
      answer.outcome = (p.answerIn world).outcome := by
  induction moves using List.reverseRecOn generalizing answer with
  | nil => cases asking
  | append_singleton moves m ih =>
    have further : moves <+: moves ++ [m] := List.prefix_append moves [m]
    rw [run_snoc] at asking
    by_cases own : c = ((ofSeed seed clock start).run p moves).callOf m
    · subst own
      rcases (move_passage p _ m).dealing.asking asking with ⟨earlier, waits, same⟩ | ⟨contacts, same⟩
      · obtain ⟨world, asked, told⟩ := ih waits
        exact ⟨world, asked.mono further, same.trans told⟩
      · exact ⟨_, ⟨moves, m, List.prefix_rfl, rfl, newContacts_of_append p _ contacts, rfl⟩, same⟩
    · rw [move_standing p _ m c own] at asking
      obtain ⟨world, asked, same⟩ := ih asking
      exact ⟨world, asked.mono further, same⟩

theorem learns_askedIn {seed : TokenCache} {clock : Instant} {start : World}
    {outcome : Except Cause Issued} (learns : ((ofSeed seed clock start).run p moves).Learns p m outcome) :
    ∃ world, (ofSeed seed clock start).AskedIn p (moves ++ [m])
        (((ofSeed seed clock start).run p moves).callOf m) world ∧
      outcome = (p.answerIn world).outcome := by
  obtain ⟨polled, answer⟩ := learns
  cases move_deals p ((ofSeed seed clock start).run p moves) m with
  | none _ _ contacts => simp [contacts] at polled
  | polls ha =>
    obtain ⟨world, asked, same⟩ := asking_askedIn ha
    simp only [answerTo, ha] at answer
    rw [answer] at same
    exact ⟨world, asked.mono (List.prefix_append moves [m]), same⟩
  | asks ha _ contacts =>
    rw [answerTo_asked ha] at answer
    exact ⟨_, ⟨moves, m, List.prefix_rfl, rfl, contacts, rfl⟩, by rw [answer]⟩
  | drops _ _ _ contacts => simp [contacts] at polled

variable {calls : List SourceCall} {a : SourceCall} {token : IdentityToken}

lemma withdraw_returned (ha : a ∈ withdraw calls m) (returned : a.fate = .returned token) :
    a ∈ calls := by
  cases m with
  | cancel call =>
    rcases SourceCall.mem_map_settle ha with old | gone
    · exact old
    · cases returned.symm.trans gone
  | start => exact ha
  | poll => exact ha
  | turn => exact ha

lemma learns_of_fate (polled : .polled (s.callOf m) ∈ s.newContacts p m)
    (returned : (s.answerTo p (s.callOf m)).fate s.shared.clock = .returned token) :
    ∃ outcome, s.Learns p m outcome ∧ Delayed.fate s.shared.clock ⟨0, outcome⟩ = .returned token := by
  cases h : s.answerTo p (s.callOf m) with
  | mk pauses outcome =>
    rw [h] at returned
    cases pauses with
    | zero => exact ⟨outcome, ⟨polled, h⟩, returned⟩
    | succ => cases returned

lemma watch_returned (ha : a ∈ s.watch p calls m) (returned : a.fate = .returned token) :
    a ∈ calls ∨ ∃ outcome, s.Learns p m outcome ∧
      Delayed.fate s.shared.clock ⟨0, outcome⟩ = .returned token := by
  have noted := withdraw_returned ha returned
  cases s.move_deals p m with
  | none _ _ contacts => exact .inl (by rwa [contacts] at noted)
  | polls _ _ contacts =>
    rw [contacts] at noted
    rcases SourceCall.mem_map_settle noted with old | settled
    · exact .inl old
    · exact .inr (learns_of_fate (by simp [contacts]) (settled.symm.trans returned))
  | asks _ _ contacts =>
    rw [contacts] at noted
    rcases SourceCall.mem_map_settle noted with fresh | settled
    · rcases List.mem_cons.mp fresh with rfl | old
      · cases returned
      · exact .inl old
    · exact .inr (learns_of_fate (by simp [contacts]) (settled.symm.trans returned))
  | drops _ _ _ contacts => exact .inl (by rwa [contacts] at noted)

theorem sourceCalls_returned {s : Session World} (ha : a ∈ s.sourceCalls p moves)
    (returned : a.fate = .returned token) :
    ∃ first m outcome, first ++ [m] <+: moves ∧ (s.run p first).Learns p m outcome ∧
      Delayed.fate (s.run p first).shared.clock ⟨0, outcome⟩ = .returned token := by
  induction moves using List.reverseRecOn with
  | nil => cases ha
  | append_singleton moves m ih =>
    rw [sourceCalls_snoc] at ha
    rcases watch_returned ha returned with old | ⟨outcome, learns, told⟩
    · obtain ⟨first, m', outcome, within, learns, told⟩ := ih old
      exact ⟨first, m', outcome, within.trans (List.prefix_append moves [m]), learns, told⟩
    · exact ⟨moves, m, outcome, List.prefix_rfl, learns, told⟩

lemma latest?_later (later : List Move) (h : (SourceCall.latest? calls).isSome) :
    (SourceCall.latest? (s.sourceCallsOn p calls later)).isSome := by
  induction later generalizing s calls with
  | nil => exact h
  | cons m later ih =>
    apply ih
    apply watch_induction (P := fun calls => (SourceCall.latest? calls).isSome) _ _ h m
    · intro calls call h
      exact h
    · intro calls call fate h
      exact SourceCall.latest?_settle h call fate

end Session

end RegistryLogin
