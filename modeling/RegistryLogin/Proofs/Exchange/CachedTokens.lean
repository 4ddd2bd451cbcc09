import RegistryLogin.Proofs.Calls.Answers
import RegistryLogin.Proofs.Exchange.Tokens

namespace RegistryLogin

lemma Margin.ticks_chosen (choice : Option Duration) :
    (choice.elim default ofDuration).duration.ticks =
      max (choice.elim 300000000000 Duration.ticks) 0 := by
  cases choice with
  | none => rfl
  | some d => exact d.clamped_ticks

lemma IdentityToken.early_of_fresh {token : IdentityToken} {now : Instant} {margin : Duration}
    (h : token.isStaleAt? now margin = some false) :
    now.ticks + margin.ticks < token.expiresOn.ticks := by
  obtain ⟨limit, hl, hs⟩ := Option.map_eq_some_iff.mp h
  have late : ¬ token.expiresOn.ticks ≤ limit.ticks := of_decide_eq_false hs
  have sum : limit.ticks = now.ticks + margin.ticks := (Instant.ticks_of_add? hl).1
  omega

namespace Session

variable {World Client : Type} {p : Provider World Client} {s : Session World} {m : Move}
variable {moves : List Move} {token : IdentityToken} {least : Int}

structure Picks (s : Session World) (m : Move) (least : Int) (token : IdentityToken) : Prop where
  caller : s.phaseOf (s.callOf m) = none ∨ s.Waiting (s.callOf m)
  cached : s.shared.cache.current = some token
  early : s.shared.clock.ticks + max least 0 < token.expiresOn.ticks

lemma Picks.unexpired (h : s.Picks m least token) : s.shared.clock < token.expiresOn := by
  have early := h.early
  change s.shared.clock.ticks < token.expiresOn.ticks
  omega

lemma Tokenless.caller {c : Nat} (h : s.Tokenless c) (ha : (s.standing c).isAsking = false) :
    s.phaseOf c = none ∨ s.Waiting c := by
  rw [standing_eq] at ha
  cases hp : s.phaseOf c with
  | none => exact .inl rfl
  | some phase =>
    obtain ⟨job, hj⟩ := h phase hp
    cases phase with
    | waiting =>
      refine .inr (standing_eq_queued.mp ?_)
      rw [standing_eq, hp]
      rfl
    | refreshing => simp [hp, Phase.standing, Standing.isAsking] at ha
    | exchanging => cases hj
    | done => cases hj

lemma picks_or_returned (hm : p.margin.duration.ticks = max least 0) {y : IdentitySide World}
    (before : s.Tokenless (s.callOf m))
    (obtained : p.Obtained (s.callOf m) s.shared.side token (s.standing (s.callOf m)) y)
    (contacts : (s.move p m).shared.side.contacts = y.contacts) :
    s.returnedIn p m = some token ∨ s.Picks m least token := by
  generalize ha : s.standing (s.callOf m) = a at obtained
  cases obtained with
  | found hn fresh =>
    obtain ⟨cached, hf⟩ := Provider.freshFor_current fresh
    have early := IdentityToken.early_of_fresh hf
    rw [hm] at early
    exact .inr ⟨before.caller (ha ▸ hn), cached, early⟩
  | @heard answer y fate clock cache met =>
    have polled : s.newContacts p m = [.polled (s.callOf m)] :=
      newContacts_of_append p s (contacts.trans met)
    have fate' : answer.fate s.shared.clock = .returned token := fate
    left
    simp [returnedIn, polled, answerTo, ha, fate', Fate.token?]
  | asked hn fate clock cache met =>
    have asked : s.newContacts p m =
        [.asked (s.callOf m) p.identityRequest, .polled (s.callOf m)] :=
      newContacts_of_append p s (contacts.trans met)
    have fate' : (p.answerIn s.shared.world).fate s.shared.clock = .returned token := fate
    left
    simp [returnedIn, asked, answerTo_asked (ha ▸ hn), fate', Fate.token?]

def Comes (p : Provider World Client) (s : Session World) (moves : List Move) (m : Move)
    (least : Int) (token : IdentityToken) : Prop :=
  (∃ a ∈ s.sourceCalls p (moves ++ [m]), a.caller = (s.run p moves).callOf m ∧
      a.fate = .returned token) ∨
    (s.run p moves).Picks m least token

variable {seed : TokenCache} {clock : Instant} {world : World}

lemma move_comes (hm : p.margin.duration.ticks = max least 0) {r : Nat × ExchangeRequest}
    (h : r ∈ (((ofSeed seed clock world).run p moves).move p m).shared.requests) :
    r ∈ ((ofSeed seed clock world).run p moves).shared.requests ∨
      ∃ host token answer, ((ofSeed seed clock world).run p moves).Sends p m host token answer ∧
        r = (((ofSeed seed clock world).run p moves).callOf m, p.exchangeRequest host token) ∧
        (ofSeed seed clock world).Comes p moves m least token := by
  cases ((ofSeed seed clock world).run p moves).move_goes p m with
  | stays _ requests => exact .inl (requests ▸ h)
  | seeks _ _ requests => exact .inl (requests ▸ h)
  | ends _ _ requests => exact .inl (requests ▸ h)
  | hears _ _ _ requests => exact .inl (requests ▸ h)
  | @sends host token y answer next before sends obtained contacts =>
    rw [sends.request] at h
    rcases List.mem_append.mp h with h | h
    · exact .inl h
    · refine .inr ⟨host, token, answer, sends, List.mem_singleton.mp h, ?_⟩
      rcases picks_or_returned hm before obtained contacts with returned | picks
      · have guarded := run_guarded (p := p) _ moves (ofSeed_guarded seed clock world)
        have recorded := run_recorded p seed clock world moves
        rw [Comes, sourceCalls_snoc]
        exact .inl (returned_recorded guarded recorded returned)
      · exact .inr picks

theorem run_comes (hm : p.margin.duration.ticks = max least 0) {r : Nat × ExchangeRequest}
    (h : r ∈ ((ofSeed seed clock world).run p moves).shared.requests) :
    ∃ first m, first ++ [m] <+: moves ∧ ∃ host token answer,
      ((ofSeed seed clock world).run p first).Sends p m host token answer ∧
      r = (((ofSeed seed clock world).run p first).callOf m, p.exchangeRequest host token) ∧
      (ofSeed seed clock world).Comes p first m least token := by
  induction moves using List.reverseRecOn with
  | nil => cases h
  | append_singleton moves m ih =>
    rw [run_snoc] at h
    rcases move_comes hm h with old | ⟨host, token, answer, comes⟩
    · obtain ⟨first, m', before, comes⟩ := ih old
      exact ⟨first, m', before.trans (List.prefix_append moves [m]), comes⟩
    · exact ⟨moves, m, List.prefix_rfl, host, token, answer, comes⟩

/-- Whatever margin a provider is given: a token is sent either by a call that has had it from the
source, or by one that has found it cached in that move and unexpired by the margin, if not more. -/
theorem sent_token_unexpired (p : Provider World Client) (choice : Option Duration)
    (hm : p.margin = choice.elim .default .ofDuration) (seed : TokenCache) (clock : Instant)
    (world : World) (moves : List Move) (c : Nat) (request : ExchangeRequest)
    (h : (c, request) ∈ ((ofSeed seed clock world).run p moves).shared.requests) :
    let s := ofSeed seed clock world
    let least := choice.elim 300000000000 Duration.ticks
    ∃ first m, first ++ [m] <+: moves ∧ (s.run p first).callOf m = c ∧ ∃ host token answer,
      (s.run p first).Sends p m host token answer ∧ request = p.exchangeRequest host token ∧
      ((∃ a ∈ s.sourceCalls p (first ++ [m]), a.caller = c ∧ a.fate = .returned token) ∨
        (s.run p first).Picks m least token ∧ (s.run p first).shared.clock < token.expiresOn) := by
  intro s least
  have ticks : p.margin.duration.ticks = max least 0 := by rw [hm, Margin.ticks_chosen]
  obtain ⟨first, m, before, host, token, answer, sends, hr, comes⟩ := run_comes ticks h
  obtain ⟨rfl, rfl⟩ := Prod.mk.inj hr
  refine ⟨first, m, before, rfl, host, token, answer, sends, rfl, ?_⟩
  rcases comes with returned | picks
  · exact .inl returned
  · exact .inr ⟨picks, picks.unexpired⟩

def loginBehindPrime : List Move :=
  [.start .prime false, .start (.provide "r.io") false,
    .turn (.set ⟨1000000000, .utc, by decide, by decide⟩), .poll 0 false, .poll 1 false]

theorem sent_token_unexpired_loginBehindPrime :
    let choice : Option Duration := some ⟨-5000000000, by decide, by decide⟩
    let p : Provider Nat Unit :=
      { Answers.hourly.provider with margin := choice.elim .default .ofDuration }
    let s := ofSeed .empty ⟨0, .utc, by decide, by decide⟩ 0
    let request : ExchangeRequest := ⟨"access_token", "r.io", none, ⟨"token"⟩⟩
    (1, request) ∈ (s.run p loginBehindPrime).shared.requests ∧
      ∃ first m, first ++ [m] <+: loginBehindPrime ∧ (s.run p first).callOf m = 1 ∧
        ∃ host token answer, (s.run p first).Sends p m host token answer ∧
          request = p.exchangeRequest host token ∧
          ((∃ a ∈ s.sourceCalls p (first ++ [m]), a.caller = 1 ∧ a.fate = .returned token) ∨
            (s.run p first).Picks m (-5000000000) token ∧
              (s.run p first).shared.clock < token.expiresOn) := by
  intro choice p s request
  have h : (1, request) ∈ (s.run p loginBehindPrime).shared.requests := by decide +kernel
  exact ⟨h, sent_token_unexpired p choice rfl .empty _ 0 loginBehindPrime 1 request h⟩

end Session

end RegistryLogin
