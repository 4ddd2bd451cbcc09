import RegistryLogin.Proofs.Calls.Answers
import RegistryLogin.Proofs.Refresh.SourceCalls

/-! Callers that find the token stale share one source call. -/

namespace RegistryLogin

namespace Session

variable {World Client : Type} (p : Provider World Client) (s : Session World)

/-- Stale callers come together: nobody refreshes the token yet or waits for that, and the clock
stands still. -/
structure Crowd (moves : List Move) : Prop where
  stale : p.fresh? s.shared = some none
  free : s.shared.guard = .free
  still : s.Still p moves
  caller : ∃ errand favoured job, .start errand favoured ∈ moves ∧ p.jobOf errand = .ok job

variable {p} {s} {calls old : List SourceCall}

lemma note_append (h : ∀ a ∈ old, a.isPending = false) (contact : Contact) :
    s.note p (calls ++ old) contact = s.note p calls contact ++ old := by
  cases contact with
  | asked => rfl
  | polled => rw [note, List.map_append, SourceCall.map_settle h]; rfl

lemma watch_append (h : ∀ a ∈ old, a.isPending = false) (m : Move) :
    s.watch p (calls ++ old) m = s.watch p calls m ++ old := by
  have hn : ∀ contacts : List Contact, contacts.foldl (s.note p) (calls ++ old) =
      contacts.foldl (s.note p) calls ++ old := by
    intro contacts
    induction contacts generalizing calls with
    | nil => rfl
    | cons contact contacts ih => rw [List.foldl_cons, note_append h, ih, List.foldl_cons]
  rw [watch, hn, watch]
  cases m with
  | cancel => rw [withdraw, List.map_append, SourceCall.map_settle h]; rfl
  | start => rfl
  | poll => rfl
  | turn => rfl

lemma sourceCallsOn_old (h : ∀ a ∈ old, a.isPending = false) (moves : List Move) :
    s.sourceCallsOn p (calls ++ old) moves = s.sourceCallsOn p calls moves ++ old := by
  induction moves generalizing s calls with
  | nil => rfl
  | cons m moves ih => rw [sourceCallsOn, watch_append h, ih, sourceCallsOn]

lemma watch_induction {P : List SourceCall → Prop}
    (asked : ∀ calls call, P calls → P (⟨call, s.shared.clock, .pending⟩ :: calls))
    (settled : ∀ calls call fate, P calls → P (calls.map (.settle call fate)))
    (h : P calls) (m : Move) : P (s.watch p calls m) := by
  have hn : ∀ contacts : List Contact, P (contacts.foldl (s.note p) calls) := by
    intro contacts
    induction contacts generalizing calls with
    | nil => exact h
    | cons contact contacts ih =>
      cases contact with
      | asked call => exact ih (asked calls call h)
      | polled call => exact ih (settled calls call _ h)
  cases m with
  | cancel call => exact settled _ call .cancelled (hn _)
  | start => exact hn _
  | poll => exact hn _
  | turn => exact hn _

lemma sourceCallsOn_ne_nil (h : calls ≠ []) (moves : List Move) :
    s.sourceCallsOn p calls moves ≠ [] := by
  induction moves generalizing s calls with
  | nil => exact h
  | cons m moves ih =>
    apply ih
    apply watch_induction (P := (· ≠ [])) _ _ h m
    · intro calls call _
      exact List.cons_ne_nil _ _
    · intro calls call fate hc
      exact fun hn => hc (List.map_eq_nil_iff.mp hn)

lemma decidedAt_of_still {now : Instant} (hc : s.shared.clock = now) {moves : List Move}
    (hs : s.Still p moves) (h : ∀ a ∈ calls, a.decidedAt = now) :
    ∀ a ∈ s.sourceCallsOn p calls moves, a.decidedAt = now := by
  induction moves generalizing s calls with
  | nil => exact h
  | cons m moves ih =>
    refine ih (hs.1.trans hc) hs.2
      (watch_induction (P := fun calls => ∀ a ∈ calls, a.decidedAt = now) ?_ ?_ h m)
    · intro calls call h
      exact List.forall_mem_cons.mpr ⟨hc, h⟩
    · intro calls call fate h a ha
      obtain ⟨b, hb, rfl⟩ := List.mem_map.mp ha
      rw [SourceCall.settle_decidedAt, h b hb]

end Session

namespace Provider

variable {World Client : Type} {p : Provider World Client} {call : Nat}

lemma Passage.asks_first {x y : IdentitySide World} {quits : Bool} {b : Standing}
    (h : p.Passage call x quits .away y b) (free : x.guard = .free)
    (stale : p.freshFor x = some none) :
    (∃ clock world, y = { x with clock := clock, world := world }) ∨
      y.contacts = x.contacts ++ [.asked call p.identityRequest, .polled call] := by
  cases h with
  | aside _ world => exact .inl ⟨x.clock, world, rfl⟩
  | turned clock => exact .inl ⟨clock, x.world, rfl⟩
  | sought h world =>
    cases h with
    | overflowed hf => simp [stale] at hf
    | reused token hf => simp [stale] at hf
    | queued _ busy => simp [free, Guard.free, Guard.admits] at busy
    | entered _ _ renewed => exact .inr (renewed.asks stale)

end Provider

namespace Session

variable {World Client : Type} {p : Provider World Client} {s : Session World}
variable {calls : List SourceCall}

lemma Asks.watch_ne_nil {m : Move} (h : s.Asks p m) : s.watch p calls m ≠ [] := by
  have hl : s.note p (s.note p calls (.asked (s.callOf m) p.identityRequest))
      (.polled (s.callOf m)) ≠ [] := by
    simp [note]
  rw [watch, h]
  cases m with
  | cancel => exact fun hn => hl (List.map_eq_nil_iff.mp hn)
  | start => exact hl
  | poll => exact hl
  | turn => exact hl

lemma standing_of_free (hg : Guarded s.shared.guard s.standing) (free : s.shared.guard = .free)
    (c : Nat) : s.standing c = .away := by
  have hq := (hg.queue c).not
  have hh := (hg.holder c).not
  cases hs : s.standing c with
  | away => rfl
  | queued => simp [free, Guard.free, hs] at hq
  | asking answer => simp [free, Guard.free, hs] at hh

lemma Crowd.ne_nil (hg : Guarded s.shared.guard s.standing) {moves : List Move}
    (h : s.Crowd p moves) : s.sourceCallsOn p calls moves ≠ [] := by
  induction moves generalizing s calls with
  | nil =>
    obtain ⟨errand, favoured, job, hm, -⟩ := h.caller
    simp at hm
  | cons m moves ih =>
    obtain ⟨errand, favoured, job, hm, hj⟩ := h.caller
    have stale : p.freshFor s.shared.side = some none := h.stale
    have hp := s.move_passage p m
    rw [standing_of_free hg h.free] at hp
    -- with nobody at the guard, a move asks the source or leaves the crowd as it is
    rcases hp.asks_first h.free stale with ⟨clock, world, hy⟩ | hy
    · rcases List.mem_cons.mp hm with rfl | hm
      · have ha : s.Asks p (.start errand favoured) :=
          start_asks p s hj h.stale (by simp [h.free, Guard.free, Guard.admits])
        exact sourceCallsOn_ne_nil ha.watch_ne_nil moves
      · have hc : clock = s.shared.clock := by
          rw [← h.still.1]
          exact (congrArg IdentitySide.clock hy).symm
        have hs : p.fresh? (s.move p m).shared = p.fresh? s.shared := by
          change p.freshFor (s.move p m).shared.side = p.freshFor s.shared.side
          rw [hy, hc]
          rfl
        exact ih (s.move_guarded p m hg) ⟨hs.trans h.stale,
          (congrArg IdentitySide.guard hy).trans h.free, h.still.2, errand, favoured, job, hm, hj⟩
    · have ha : s.Asks p m := newContacts_of_append p s hy
      exact sourceCallsOn_ne_nil ha.watch_ne_nil moves

lemma Crowd.single (hg : Guarded s.shared.guard s.standing) {moves : List Move}
    (h : s.Crowd p moves)
    (chain : (s.sourceCallsOn p calls moves).IsChain fun b a => a.Spent p b.decidedAt)
    (settled : ∀ a ∈ calls, a.isPending = false) :
    ∃ made first, s.sourceCallsOn p calls moves = made ++ first :: calls ∧
      (first.Spent p s.shared.clock ∨ made = []) := by
  have ho : s.sourceCallsOn p ([] ++ calls) moves = s.sourceCalls p moves ++ calls :=
    sourceCallsOn_old settled moves
  rw [List.nil_append] at ho
  have hn : s.sourceCalls p moves ≠ [] := h.ne_nil hg
  have hd : ∀ a ∈ s.sourceCalls p moves, a.decidedAt = s.shared.clock :=
    decidedAt_of_still rfl h.still (by simp)
  obtain ⟨made, first, hm⟩ := List.eq_nil_or_concat _ |>.resolve_left hn
  refine ⟨made, first, by rw [ho, hm]; simp, ?_⟩
  rcases List.eq_nil_or_concat made with hm' | ⟨made, next, rfl⟩
  · exact .inr hm'
  · left
    have hc : (made ++ next :: first :: calls).IsChain fun b a => a.Spent p b.decidedAt := by
      simpa [ho, hm] using chain
    have hs : first.Spent p next.decidedAt := (List.isChain_append_cons_cons.mp hc).2.1
    rwa [hd next (by simp [hm])] at hs

/-- In every run, of two consecutive source calls the former has ended without a token that is fresh
when the latter is decided on, and the first one is decided on with no fresh seed. Of a crowd, the
first source call is the only one unless it fails, is given up, or brings a stale token. -/
theorem single_flight (p : Provider World Client) (seed : TokenCache) (clock : Instant)
    (world : World) (moves : List Move) :
    let s := ofSeed seed clock world
    let calls := s.sourceCalls p moves
    (s.run p moves).questions = calls.reverse.map (fun a => (a.caller, p.identityRequest)) ∧
      calls.IsChain (fun b a => a.Spent p b.decidedAt) ∧
      (∀ a, calls.getLast? = some a → ∀ token, seed.current = some token →
        token.isStaleAt? a.decidedAt p.margin.duration = some true) ∧
      ∀ before after, moves = before ++ after → (s.run p before).Crowd p after →
        ∃ made first, calls = made ++ first :: s.sourceCalls p before ∧
          (first.Spent p (s.run p before).shared.clock ∨ made = []) := by
  intro s calls
  have h := run_recorded p seed clock world moves
  refine ⟨h.questions, h.chain, h.first, ?_⟩
  rintro before after rfl crowd
  have hg := run_guarded p s before (ofSeed_guarded seed clock world)
  have hb := run_recorded p seed clock world before
  have hc : calls = (s.run p before).sourceCallsOn p (s.sourceCalls p before) after :=
    sourceCallsOn_append before after
  have free : (s.run p before).shared.side.guard.holder = none :=
    congrArg Guard.holder crowd.free
  rw [hc]
  exact crowd.single hg (hc ▸ h.chain) (free ▸ hb.flight).settled

def twoPrimes : List Move := [.start .prime false, .start .prime false, .poll 0 false, .poll 1 false]

theorem single_flight_twoPrimes :
    let p := Answers.hourly.provider
    let s := ofSeed .empty ⟨0, .utc, by decide, by decide⟩ 0
    s.Crowd p twoPrimes ∧ ∃ made first, s.sourceCalls p twoPrimes = made ++ [first] ∧
      (first.Spent p s.shared.clock ∨ made = []) := by
  intro p s
  have h : s.Crowd p twoPrimes :=
    ⟨rfl, rfl, ⟨rfl, rfl, rfl, rfl, trivial⟩, .prime, false, .warmUp, by simp [twoPrimes], rfl⟩
  exact ⟨h, (single_flight p .empty _ 0 twoPrimes).2.2.2 [] twoPrimes rfl h⟩

end Session

end RegistryLogin
