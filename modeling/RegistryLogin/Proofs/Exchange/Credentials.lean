import RegistryLogin.Proofs.Calls.Answers
import RegistryLogin.Proofs.Exchange.Tokens

/-! Where a credential comes from. -/

namespace RegistryLogin

def Phase.credential? : Phase → Option Credential
  | .done ending => ending.credential?
  | _ => none

structure Credential.Settles (credential : Credential) (token : IdentityToken)
    (outcome : Except Cause (Option Secret)) (now : Instant) : Prop where
  password : outcome = .ok (some credential.password)
  expiry : ∃ limit : Instant, limit.ticks = now.ticks + 3 * 3600 * 1000000000 ∧
    limit.offset = now.offset ∧
    credential.expiresOn = if limit < token.expiresOn then limit else token.expiresOn

lemma Credential.Settles.expiresOn_le {credential : Credential} {token : IdentityToken}
    {outcome : Except Cause (Option Secret)} {now : Instant}
    (h : credential.Settles token outcome now) : credential.expiresOn ≤ token.expiresOn := by
  obtain ⟨limit, -, -, he⟩ := h.expiry
  rw [he]
  split
  · rename_i hl
    exact Int.le_of_lt hl
  · exact Int.le_refl token.expiresOn.ticks

lemma loginEnding_settles {host : String} {token : IdentityToken} {now : Instant}
    {outcome : Except Cause (Option Secret)} {credential : Credential}
    (h : (loginEnding host token now outcome).credential? = some credential) :
    credential.Settles token outcome now := by
  rcases outcome with cause | _ | secret
  · cases h
  · cases h
  · rw [loginEnding, Credential.earlierExpiry?] at h
    cases hl : now.add? Credential.lifetime with
    | none => simp [hl, Ending.credential?] at h
    | some limit =>
      obtain ⟨ticks, offset⟩ := Instant.ticks_of_add? hl
      simp only [hl, Option.map_some, Ending.credential?, Option.some.injEq] at h
      subst h
      exact ⟨rfl, limit, ticks, offset, rfl⟩

namespace Session

variable {World Client : Type} (p : Provider World Client) (s : Session World)

def requestsBy (c : Nat) : List ExchangeRequest :=
  s.shared.requests.filterMap fun r => if r.1 = c then some r.2 else none

def credentialOf (c : Nat) : Option Credential := (s.phaseOf c).bind Phase.credential?

def Brought (moves : List Move) (token : IdentityToken) : Prop :=
  s.shared.cache.current = some token ∨ ∃ a ∈ s.sourceCalls p moves, a.fate = .returned token

structure Exchanged (moves : List Move) (c : Nat) (host : String) (token : IdentityToken)
    (answer : Delayed (Except Cause (Option Secret))) : Prop where
  alone : (s.run p moves).requestsBy c = [p.exchangeRequest host token]
  sent : ∃ first m, first ++ [m] <+: moves ∧ (s.run p first).callOf m = c ∧
    (s.run p first).Sends p m host token answer ∧ s.Brought p (first ++ [m]) token

def Hears (m : Move) (host : String) (token : IdentityToken)
    (answer : Delayed (Except Cause (Option Secret))) : Prop :=
  s.phaseOf (s.callOf m) = some (.exchanging host token ⟨0, answer.outcome⟩) ∨
    s.Sends p m host token answer ∧ answer.pauses = 0

structure Paid (moves : List Move) (c : Nat) (host : String) (token : IdentityToken)
    (answer : Delayed (Except Cause (Option Secret))) (credential : Credential) : Prop where
  exchanged : s.Exchanged p moves c host token answer
  heard : ∃ first m, first ++ [m] <+: moves ∧ (s.run p first).callOf m = c ∧
    (s.run p first).Hears p m host token answer ∧
    credential.Settles token answer.outcome (s.run p first).shared.clock

inductive Account (moves : List Move) (c : Nat) : Prop
  | tokenless (h : (s.run p moves).Tokenless c) (silent : (s.run p moves).requestsBy c = [])
  | exchanging {host : String} {token : IdentityToken}
      {answer : Delayed (Except Cause (Option Secret))} {pauses : Nat}
      (phase : (s.run p moves).phaseOf c = some (.exchanging host token ⟨pauses, answer.outcome⟩))
      (exchanged : s.Exchanged p moves c host token answer)
  | unpaid {ending : Ending} (phase : (s.run p moves).phaseOf c = some (.done ending))
      (unpaid : ending.credential? = none)
  | paid {host : String} {token : IdentityToken}
      {answer : Delayed (Except Cause (Option Secret))} {ending : Ending} {credential : Credential}
      (phase : (s.run p moves).phaseOf c = some (.done ending))
      (issues : ending.credential? = some credential)
      (paid : s.Paid p moves c host token answer credential)

variable {p} {s} {moves : List Move} {c : Nat} {m : Move}

lemma requestsBy_same (h : (s.move p m).shared.requests = s.shared.requests) (c : Nat) :
    (s.move p m).requestsBy c = s.requestsBy c := by
  rw [requestsBy, h, requestsBy]

lemma Sends.requestsBy {host : String} {token : IdentityToken}
    {answer : Delayed (Except Cause (Option Secret))} (h : s.Sends p m host token answer) (c : Nat) :
    (s.move p m).requestsBy c =
      s.requestsBy c ++ if s.callOf m = c then [p.exchangeRequest host token] else [] := by
  rw [Session.requestsBy, h.request, List.filterMap_append, Session.requestsBy]
  congr 1
  split <;> simp_all

lemma requestsBy_other (h : c ≠ s.callOf m) : (s.move p m).requestsBy c = s.requestsBy c := by
  cases s.move_goes p m with
  | stays _ requests => exact requestsBy_same requests c
  | seeks _ _ requests => exact requestsBy_same requests c
  | ends _ _ requests => exact requestsBy_same requests c
  | hears _ _ _ requests => exact requestsBy_same requests c
  | sends _ sends => rw [sends.requestsBy, if_neg h.symm, List.append_nil]

section

variable {host : String} {token : IdentityToken} {answer : Delayed (Except Cause (Option Secret))}

lemma Exchanged.snoc (h : s.Exchanged p moves c host token answer)
    (requests : ((s.run p moves).move p m).requestsBy c = (s.run p moves).requestsBy c) :
    s.Exchanged p (moves ++ [m]) c host token answer := by
  obtain ⟨alone, first, m', before, sent⟩ := h
  refine ⟨?_, first, m', before.trans (List.prefix_append moves [m]), sent⟩
  rw [run_snoc, requests, alone]

lemma Paid.snoc {credential : Credential} (h : s.Paid p moves c host token answer credential)
    (requests : ((s.run p moves).move p m).requestsBy c = (s.run p moves).requestsBy c) :
    s.Paid p (moves ++ [m]) c host token answer credential := by
  obtain ⟨exchanged, first, m', before, heard⟩ := h
  exact ⟨exchanged.snoc requests, first, m', before.trans (List.prefix_append moves [m]), heard⟩

end

lemma Account.snoc (h : s.Account p moves c)
    (phase : ((s.run p moves).move p m).phaseOf c = (s.run p moves).phaseOf c)
    (requests : ((s.run p moves).move p m).requestsBy c = (s.run p moves).requestsBy c) :
    s.Account p (moves ++ [m]) c := by
  have hp : (s.run p (moves ++ [m])).phaseOf c = (s.run p moves).phaseOf c := by rw [run_snoc, phase]
  cases h with
  | tokenless h silent =>
    refine .tokenless (fun next hn => h next (hp.symm.trans hn)) ?_
    rw [run_snoc, requests, silent]
  | exchanging phase exchanged => exact .exchanging (hp.trans phase) (exchanged.snoc requests)
  | unpaid phase unpaid => exact .unpaid (hp.trans phase) unpaid
  | paid phase issues paid => exact .paid (hp.trans phase) issues (paid.snoc requests)

lemma Account.silent (h : s.Account p moves c) (tokenless : (s.run p moves).Tokenless c) :
    (s.run p moves).requestsBy c = [] := by
  cases h with
  | tokenless _ silent => exact silent
  | exchanging phase =>
    obtain ⟨job, hj⟩ := tokenless _ phase
    cases hj
  | unpaid phase =>
    obtain ⟨job, hj⟩ := tokenless _ phase
    cases hj
  | paid phase =>
    obtain ⟨job, hj⟩ := tokenless _ phase
    cases hj

lemma Account.of_answered {host : String} {token : IdentityToken} {next : Phase}
    {answer left : Delayed (Except Cause (Option Secret))}
    (phase : (s.run p (moves ++ [m])).phaseOf c = some next)
    (caller : (s.run p moves).callOf m = c)
    (exchanged : s.Exchanged p (moves ++ [m]) c host token answer)
    (answered : Provider.Answered host token (s.run p moves).shared.clock left next)
    (same : left.outcome = answer.outcome)
    (hears : left.pauses = 0 → (s.run p moves).Hears p m host token answer) :
    s.Account p (moves ++ [m]) c := by
  cases answered with
  | pending pauses outcome =>
    obtain rfl : outcome = answer.outcome := same
    exact .exchanging phase exchanged
  | settled outcome =>
    obtain rfl : outcome = answer.outcome := same
    cases hc : (loginEnding host token (s.run p moves).shared.clock answer.outcome).credential? with
    | none => exact .unpaid phase hc
    | some credential =>
      exact .paid phase hc ⟨exchanged, moves, m, List.prefix_rfl, caller, hears rfl,
        loginEnding_settles hc⟩

lemma Account.step (h : s.Account p moves c) (m : Move)
    (kept : ∀ token, (s.run p (moves ++ [m])).shared.cache.current = some token →
      s.Brought p (moves ++ [m]) token) : s.Account p (moves ++ [m]) c := by
  have hm := s.run_snoc p moves m
  by_cases hc : c = (s.run p moves).callOf m
  -- only the call of the move gets on; the account of any other one stays as it is
  · subst hc
    cases (s.run p moves).move_goes p m with
    | stays phase requests => exact h.snoc phase (requestsBy_same requests _)
    | seeks before after requests =>
      exact .tokenless (hm ▸ after) (by rw [hm, requestsBy_same requests, h.silent before])
    | ends phase unpaid => exact .unpaid (hm ▸ phase) unpaid
    | @sends host token y answer next before sends obtained contacts cache answered phase =>
      have brought : s.Brought p (moves ++ [m]) token :=
        kept token (by rw [hm, cache, obtained.cached])
      have exchanged : s.Exchanged p (moves ++ [m]) ((s.run p moves).callOf m) host token answer := by
        refine ⟨?_, moves, m, List.prefix_rfl, rfl, sends, brought⟩
        rw [hm, sends.requestsBy, h.silent before, if_pos rfl, List.nil_append]
      exact .of_answered (hm ▸ phase) rfl exchanged answered rfl fun pauses => .inr ⟨sends, pauses⟩
    | hears before answered phase requests =>
      cases h with
      | tokenless h =>
        obtain ⟨job, hj⟩ := h _ before
        cases hj
      | unpaid phase' => cases before.symm.trans phase'
      | paid phase' => cases before.symm.trans phase'
      | @exchanging host token answer pauses phase' exchanged =>
        cases before.symm.trans phase'
        refine .of_answered (hm ▸ phase) rfl (exchanged.snoc (requestsBy_same requests _)) answered
          rfl ?_
        intro hp
        obtain rfl : pauses = 0 := hp
        exact .inl before
  · exact h.snoc (move_phaseOf p _ m c hc) (requestsBy_other hc)

variable {seed : TokenCache} {clock : Instant} {world : World}

lemma brought_of_cached {token : IdentityToken}
    (h : ((ofSeed seed clock world).run p moves).shared.cache.current = some token) :
    (ofSeed seed clock world).Brought p moves token := by
  have kept := (run_recorded p seed clock world moves).kept
  rcases Option.or_eq_some_iff.mp (kept.symm.trans h) with hl | ⟨-, hs⟩
  · obtain ⟨a, ha, hf⟩ := List.exists_of_findSome?_eq_some hl
    exact .inr ⟨a, ha, Fate.eq_returned hf⟩
  · exact .inl hs

theorem run_account (p : Provider World Client) (seed : TokenCache) (clock : Instant)
    (world : World) (moves : List Move) (c : Nat) :
    (ofSeed seed clock world).Account p moves c := by
  induction moves using List.reverseRecOn with
  | nil =>
    refine .tokenless (fun phase hp => ?_) rfl
    simp [run, phaseOf, ofSeed, initial] at hp
  | append_singleton moves m ih => exact ih.step m fun token => brought_of_cached

/-- A credential goes back to one token, the one that the only exchange of its call has been sent
with: that exchange's answer is the password, and the expiry goes by that token and by the time of
the answer, whatever is cached by then. -/
theorem credential_of_exchange (p : Provider World Client) (seed : TokenCache) (clock : Instant)
    (world : World) (moves : List Move) (c : Nat) (credential : Credential)
    (h : ((ofSeed seed clock world).run p moves).credentialOf c = some credential) :
    ∃ host token answer, (ofSeed seed clock world).Paid p moves c host token answer credential ∧
      credential.expiresOn ≤ token.expiresOn := by
  obtain ⟨phase, hp, hc⟩ := Option.bind_eq_some_iff.mp h
  cases run_account p seed clock world moves c with
  | tokenless tokenless =>
    obtain ⟨job, hj⟩ := tokenless phase hp
    cases phase <;> cases hj <;> cases hc
  | exchanging exchanging =>
    cases hp.symm.trans exchanging
    cases hc
  | unpaid done unpaid =>
    cases hp.symm.trans done
    cases unpaid.symm.trans hc
  | @paid host token answer ending paid done issues settled =>
    cases hp.symm.trans done
    cases issues.symm.trans hc
    obtain ⟨first, m, -, -, -, settles⟩ := settled.heard
    exact ⟨host, token, answer, settled, settles.expiresOn_le⟩

def replacedMeanwhile : List Move :=
  [.start (.provide "r.io") false, .turn (.set ⟨3500000000000, .utc, by decide, by decide⟩),
    .start .prime false, .turn (.set ⟨3550000000000, .utc, by decide, by decide⟩), .poll 0 false]

theorem credential_of_exchange_replacedMeanwhile :
    let p := Answers.numbered.provider
    let s := ofSeed .empty ⟨0, .utc, by decide, by decide⟩ 0
    let expiry : Instant := ⟨3600000000000, .utc, by decide, by decide⟩
    let credential : Credential := .ofRefreshToken ⟨"refresh by token 0"⟩ expiry
    (s.run p replacedMeanwhile).credentialOf 0 = some credential ∧
      (s.run p replacedMeanwhile).shared.cache.current ≠ some ⟨⟨"token 0"⟩, expiry⟩ ∧
      ∃ host token answer, s.Paid p replacedMeanwhile 0 host token answer credential ∧
        credential.expiresOn ≤ token.expiresOn := by
  intro p s expiry credential
  have h : (s.run p replacedMeanwhile).credentialOf 0 = some credential ∧
      (s.run p replacedMeanwhile).shared.cache.current ≠ some ⟨⟨"token 0"⟩, expiry⟩ := by
    decide +kernel
  exact ⟨h.1, h.2, credential_of_exchange p _ _ _ replacedMeanwhile 0 credential h.1⟩

end Session

end RegistryLogin
