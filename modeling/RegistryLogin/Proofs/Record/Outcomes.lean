import RegistryLogin.Proofs.Calls.Answers
import RegistryLogin.Proofs.Record.Journeys

namespace RegistryLogin

/-- Where a login comes to its end, and what it is told there. -/
inductive Halt
  | unresolved (error : HostError)
  | refused (cause : Cause)
  | unserved (cause : Cause)
  | settled (host : String) (outcome : Except Cause (Option Secret))

inductive Halt.Yields : Halt → Except LoginError Verdict → Prop
  | unresolved (error : HostError) : Yields (.unresolved error) (.error (.hostResolution error))
  | refused (cause : Cause) : Yields (.refused cause) (.error (.identityRefresh cause))
  | unserved (cause : Cause) : Yields (.unserved cause) (.error (.clientConstruction cause))
  | failed (host : String) (cause : Cause) :
    Yields (.settled host (.error cause)) (.error (.registryExchange cause))
  | unpaid (host : String) : Yields (.settled host (.ok none)) (.error (.missingRefreshToken host))
  | paid (host : String) (secret : Secret) (credential : Credential) :
    Yields (.settled host (.ok (some secret))) (.ok (.issued credential))

namespace Provider

variable {World Client : Type} (p : Provider World Client)

def itinerary (reference : String) (asks : Bool) (token : IdentityToken) : List Event :=
  .resolving reference ::
    match p.collaborators.resolveHost reference with
    | .error _ => []
    | .ok host => (if asks then [.asked p.identityRequest] else []) ++
      match serverUrl host with
      | .error _ => []
      | .ok server => [.building server p.options, .exchanging (p.exchangeRequest host token),
        .reported p.sink host]

def clientTurns (host : String) : List Event :=
  match serverUrl host with
  | .error _ => []
  | .ok server => [.building server p.options]

def clientError? (host : String) (world : World) : Option Cause :=
  match serverUrl host with
  | .error error => some (.url error)
  | .ok server =>
    match p.collaborators.openClient server p.options world with
    | (.error cause, _) => some cause
    | (.ok _, _) => none

structure Requests (reference : String) (request : ExchangeRequest) : Prop where
  grantType : request.grantType = "access_token"
  service : p.collaborators.resolveHost reference = .ok request.service
  tenant : request.tenant = if p.tenantId = "" then none else some p.tenantId

lemma requests_exchangeRequest {reference host : String}
    (h : p.collaborators.resolveHost reference = .ok host) (token : IdentityToken) :
    p.Requests reference (p.exchangeRequest host token) := by
  refine ⟨rfl, h, ?_⟩
  simp [exchangeRequest]

end Provider

namespace Call

def isIssuedFor (reference : String) : Call → Bool
  | ⟨.provide r, .done (.returned (.ok (.issued _)))⟩ => r == reference
  | _ => false

lemma eq_of_isIssuedFor {reference : String} {call : Call} (h : call.isIssuedFor reference = true) :
    ∃ credential, call = ⟨.provide reference, .done (.returned (.ok (.issued credential)))⟩ := by
  unfold isIssuedFor at h
  split at h
  · rw [eq_of_beq h]
    exact ⟨_, rfl⟩
  · cases h

end Call

namespace Session

variable {World Client : Type}

section

variable (p : Provider World Client) (s : Session World)

inductive HaltsAt (moves : List Move) (c : Nat) (reference : String) : Halt → Prop
  | unresolved {error : HostError} (h : p.collaborators.resolveHost reference = .error error)
      (turns : (s.run p moves).shared.turnsBy c = [.resolving reference]) :
    HaltsAt moves c reference (.unresolved error)
  | refused {host : String} {answer : Delayed (Except Cause Issued)} {cause : Cause}
      (h : p.collaborators.resolveHost reference = .ok host)
      (inquires : s.Inquiry p moves c (some answer)) (refused : answer.outcome = .error cause)
      (turns : (s.run p moves).shared.turnsBy c = [.resolving reference, .asked p.identityRequest]) :
    HaltsAt moves c reference (.refused cause)
  | unserved {host : String} {inquiry : Option (Delayed (Except Cause Issued))}
      {token : IdentityToken} {world : World} {cause : Cause}
      (h : p.collaborators.resolveHost reference = .ok host) (inquires : s.Inquiry p moves c inquiry)
      (identified : s.Identified p moves c host inquiry token world)
      (failed : p.clientError? host world = some cause)
      (turns : (s.run p moves).shared.turnsBy c =
        .resolving reference :: (p.inquiryTurns inquiry ++ p.clientTurns host)) :
    HaltsAt moves c reference (.unserved cause)
  | settled {host : String} {inquiry : Option (Delayed (Except Cause Issued))} {token : IdentityToken}
      {server : Url} {answer : Delayed (Except Cause (Option Secret))}
      (h : p.collaborators.resolveHost reference = .ok host) (inquires : s.Inquiry p moves c inquiry)
      (sent : s.Sent p moves c host inquiry token server answer)
      (turns : (s.run p moves).shared.turnsBy c = .resolving reference :: (p.inquiryTurns inquiry ++
        ([.building server p.options, .exchanging (p.exchangeRequest host token)] ++
          p.reportTurns host answer.outcome))) :
    HaltsAt moves c reference (.settled host answer.outcome)

/-- Each result of a login belongs to one point where it halts, and tells what it has been told there. -/
structure Returns (moves : List Move) (c : Nat) (reference : String)
    (result : Except LoginError Verdict) : Prop where
  halts : ∃ halt, s.HaltsAt p moves c reference halt
  hostResolution (error : HostError) : result = .error (.hostResolution error) ↔
    s.HaltsAt p moves c reference (.unresolved error)
  identityRefresh (cause : Cause) : result = .error (.identityRefresh cause) ↔
    s.HaltsAt p moves c reference (.refused cause)
  clientConstruction (cause : Cause) : result = .error (.clientConstruction cause) ↔
    s.HaltsAt p moves c reference (.unserved cause)
  registryExchange (cause : Cause) : result = .error (.registryExchange cause) ↔
    ∃ host, s.HaltsAt p moves c reference (.settled host (.error cause))
  missingRefreshToken (host : String) : result = .error (.missingRefreshToken host) ↔
    s.HaltsAt p moves c reference (.settled host (.ok none))
  issued : (∃ credential, result = .ok (.issued credential)) ↔
    ∃ host secret, s.HaltsAt p moves c reference (.settled host (.ok (some secret)))

end

variable {p : Provider World Client} {s : Session World} {moves : List Move} {c : Nat}

def HasToken (s : Session World) (c : Nat) : Prop :=
  ∃ phase, s.phaseOf c = some phase ∧ phase.hasToken = true

lemma HasToken.not_tokenless (h : s.HasToken c) : ¬ s.Tokenless c := by
  obtain ⟨phase, hp, token⟩ := h
  intro tokenless
  obtain ⟨job, seeks⟩ := tokenless phase hp
  rw [seeks.hasToken] at token
  cases token

lemma phaseOf_some {call : Call} (h : s.calls[c]? = some call) : s.phaseOf c = some call.phase := by
  rw [phaseOf, h]
  rfl

lemma Reports.keeps {m : Move} {lines : List Line} (reports : s.Reports p m lines)
    (h : s.HasToken (s.callOf m)) : (s.move p m).HasToken (s.callOf m) := by
  cases reports with
  | idle still =>
    obtain ⟨phase, hp, token⟩ := h
    exact ⟨phase, by rw [phaseOf, still, ← phaseOf, hp], token⟩
  | unresolved hm =>
    obtain ⟨phase, hp, -⟩ := h
    subst hm
    simp [phaseOf, callOf] at hp
  | pursued _ origin => exact absurd origin.before h.not_tokenless
  | exchanging _ _ answered after => exact ⟨_, phaseOf_some after, answered.hasToken⟩
  | withdrawn _ before seeks =>
    obtain ⟨phase, hp, token⟩ := h
    cases (phaseOf_some before).symm.trans hp
    rw [seeks.hasToken] at token
    cases token
  | abandoned _ _ after => exact ⟨_, phaseOf_some after, rfl⟩

lemma HasToken.run (h : s.HasToken c) (hf : s.OnErrand p) (moves : List Move) :
    (s.run p moves).HasToken c := by
  induction moves generalizing s with
  | nil => exact h
  | cons m moves ih =>
    apply ih _ (move_onErrand hf m)
    by_cases own : c = s.callOf m
    · subst own
      obtain ⟨lines, -, reports⟩ := move_written p hf m
      exact reports.keeps h
    · obtain ⟨phase, hp, token⟩ := h
      exact ⟨phase, (move_phaseOf p s m c own).trans hp, token⟩

lemma Gets.unique (hf : s.OnErrand p) {first first' : List Move} {m m' : Move}
    (h : s.Gets p moves first m c) (h' : s.Gets p moves first' m' c) : first = first' ∧ m = m' := by
  -- of two such moves the later one would find the token that the earlier one has brought
  have later {first first' : List Move} {m m' : Move} (h : s.Gets p moves first m c)
      (h' : s.Gets p moves first' m' c) : ¬ first ++ [m] <+: first' := by
    rintro ⟨rest, rfl⟩
    have kept : (s.run p (first ++ [m])).HasToken c := h.after
    have joined : s.run p (first ++ [m] ++ rest) = (s.run p (first ++ [m])).run p rest :=
      List.foldl_append
    apply (kept.run (run_onErrand hf _) rest).not_tokenless
    rw [← joined]
    exact h'.before
  rcases List.prefix_or_prefix_of_prefix h.within h'.within with before | after
  · rcases prefix_snoc_iff.mp before with same | earlier
    · exact same
    · exact absurd earlier (later h h')
  · rcases prefix_snoc_iff.mp after with same | earlier
    · exact ⟨same.1.symm, same.2.symm⟩
    · exact absurd earlier (later h' h)

lemma Finding.token_unique {x : IdentitySide World} {job job' : Job}
    {inquiry : Option (Delayed (Except Cause Issued))} {token token' : IdentityToken}
    (h : p.Finding x job inquiry (.finished (.ok token)))
    (h' : p.Finding x job' inquiry (.finished (.ok token'))) : token = token' := by
  cases h with
  | found fresh =>
    cases h' with
    | found fresh' => simpa using fresh.symm.trans fresh'
  | issued outcome valid =>
    cases h' with
    | issued outcome' valid' =>
      cases outcome.symm.trans outcome'
      exact Option.some.inj (valid.symm.trans valid')

section

variable {host : String} {inquiry : Option (Delayed (Except Cause Issued))}

lemma Identified.unique (hf : s.OnErrand p) {host' : String} {token token' : IdentityToken}
    {world world' : World} (h : s.Identified p moves c host inquiry token world)
    (h' : s.Identified p moves c host' inquiry token' world') : token = token' ∧ world = world' := by
  obtain ⟨gets, finding⟩ := h
  obtain ⟨gets', finding'⟩ := h'
  obtain ⟨rfl, rfl⟩ := gets.unique hf gets'
  exact ⟨Finding.token_unique finding finding', rfl⟩

lemma Sent.unique (hf : s.OnErrand p) {token token' : IdentityToken} {server server' : Url}
    {answer answer' : Delayed (Except Cause (Option Secret))}
    (h : s.Sent p moves c host inquiry token server answer)
    (h' : s.Sent p moves c host inquiry token' server' answer') : answer = answer' := by
  obtain ⟨identified, hs, ho, hx⟩ := h
  obtain ⟨identified', hs', ho', hx'⟩ := h'
  obtain ⟨rfl, rfl⟩ := identified.unique hf identified'
  cases hs.symm.trans hs'
  cases ho.symm.trans ho'
  exact congrArg Prod.fst (hx.symm.trans hx')

end

lemma Inquiry.unique {inquiry inquiry' : Option (Delayed (Except Cause Issued))}
    (h : s.Inquiry p moves c inquiry) (h' : s.Inquiry p moves c inquiry') : inquiry = inquiry' := by
  apply Option.ext
  intro answer
  exact (h answer).symm.trans (h' answer)

lemma Identified.not_refused {host : String} {answer : Delayed (Except Cause Issued)}
    {token : IdentityToken} {world : World} {cause : Cause}
    (h : s.Identified p moves c host (some answer) token world) : answer.outcome ≠ .error cause := by
  intro refused
  obtain ⟨-, finding⟩ := h
  cases finding with
  | issued outcome => cases refused.symm.trans outcome

section

variable {host : String} {inquiry : Option (Delayed (Except Cause Issued))} {token : IdentityToken}
variable {server : Url} {answer : Delayed (Except Cause (Option Secret))}

lemma Sent.not_refused {asked : Delayed (Except Cause Issued)} {cause : Cause}
    (h : s.Sent p moves c host (some asked) token server answer) : asked.outcome ≠ .error cause := by
  obtain ⟨identified, -, -, -⟩ := h
  exact identified.not_refused

lemma Sent.served (hf : s.OnErrand p) {token' : IdentityToken} {world : World} {cause : Cause}
    (h : s.Sent p moves c host inquiry token server answer)
    (identified : s.Identified p moves c host inquiry token' world) :
    p.clientError? host world ≠ some cause := by
  obtain ⟨identified', hs, ho, -⟩ := h
  obtain ⟨-, rfl⟩ := identified.unique hf identified'
  simp [Provider.clientError?, hs, ho]

end

lemma HaltsAt.unique (hf : s.OnErrand p) {reference : String} {halt halt' : Halt}
    (h : s.HaltsAt p moves c reference halt) (h' : s.HaltsAt p moves c reference halt') :
    halt = halt' := by
  cases h with
  | unresolved h =>
    cases h' with
    | unresolved h' =>
      cases h.symm.trans h'
      rfl
    | refused h' => cases h.symm.trans h'
    | unserved h' => cases h.symm.trans h'
    | settled h' => cases h.symm.trans h'
  | refused h inquires refused =>
    cases h' with
    | unresolved h' => cases h.symm.trans h'
    | refused _ inquires' refused' =>
      cases inquires.unique inquires'
      cases refused.symm.trans refused'
      rfl
    | unserved _ inquires' identified =>
      cases inquires.unique inquires'
      exact absurd refused identified.not_refused
    | settled _ inquires' sent =>
      cases inquires.unique inquires'
      exact absurd refused sent.not_refused
  | unserved h inquires identified failed =>
    cases h' with
    | unresolved h' => cases h.symm.trans h'
    | refused _ inquires' refused =>
      cases inquires.unique inquires'
      exact absurd refused identified.not_refused
    | unserved h' inquires' identified' failed' =>
      cases h.symm.trans h'
      cases inquires.unique inquires'
      obtain ⟨-, rfl⟩ := identified.unique hf identified'
      cases failed.symm.trans failed'
      rfl
    | settled h' inquires' sent =>
      cases h.symm.trans h'
      cases inquires.unique inquires'
      exact absurd failed (sent.served hf identified)
  | settled h inquires sent =>
    cases h' with
    | unresolved h' => cases h.symm.trans h'
    | refused _ inquires' refused =>
      cases inquires.unique inquires'
      exact absurd refused sent.not_refused
    | unserved h' inquires' identified failed =>
      cases h.symm.trans h'
      cases inquires.unique inquires'
      exact absurd failed (sent.served hf identified)
    | settled h' inquires' sent' =>
      cases h.symm.trans h'
      cases inquires.unique inquires'
      rw [sent.unique hf sent']

lemma clientTurns_noUrl {host : String} {error : Url.Error} (h : serverUrl host = .error error) :
    p.clientTurns host = [] := by
  rw [Provider.clientTurns, h]

lemma clientTurns_server {host : String} {server : Url} (h : serverUrl host = .ok server) :
    p.clientTurns host = [.building server p.options] := by
  rw [Provider.clientTurns, h]

lemma yields_of_loginEnding {host : String} {token : IdentityToken} {now : Instant}
    {outcome : Except Cause (Option Secret)} {result : Except LoginError Verdict}
    (h : loginEnding host token now outcome = .returned result) :
    (Halt.settled host outcome).Yields result := by
  rcases outcome with cause | _ | secret
  · cases h
    exact .failed host cause
  · cases h
    exact .unpaid host
  · rw [loginEnding] at h
    cases he : Credential.earlierExpiry? token.expiresOn now with
    | none =>
      rw [he] at h
      cases h
    | some expiresOn =>
      rw [he] at h
      cases h
      exact .paid host secret _

lemma Told.halts {reference : String} {result : Except LoginError Verdict}
    (h : s.Told p moves c reference (.done (.returned result))) :
    ∃ halt : Halt, s.HaltsAt p moves c reference halt ∧ halt.Yields result := by
  obtain ⟨inquires, turns, journey⟩ := h
  generalize hp : Phase.done (.returned result) = phase at journey
  cases journey with
  | unresolved h =>
    cases hp
    exact ⟨_, .unresolved h turns, .unresolved _⟩
  | waiting => cases hp
  | refreshing => cases hp
  | lost _ lost =>
    cases hp
    rcases lost with lost | lost <;> cases lost
  | refused h refused =>
    cases hp
    exact ⟨_, .refused h inquires refused turns, .refused _⟩
  | noUrl h identified hs =>
    cases hp
    refine ⟨_, .unserved h inquires identified ?_ ?_, .unserved _⟩
    · simp [Provider.clientError?, hs]
    · rw [turns, clientTurns_noUrl hs]
  | noClient h identified hs ho =>
    cases hp
    refine ⟨_, .unserved h inquires identified ?_ ?_, .unserved _⟩
    · simp [Provider.clientError?, hs, ho]
    · rw [turns, clientTurns_server hs]
  | exchanging => cases hp
  | quit => cases hp
  | answered now h sent =>
    exact ⟨_, .settled h inquires sent turns, yields_of_loginEnding (Phase.done.inj hp).symm⟩

lemma Told.outcome (hf : s.OnErrand p) {reference : String} {result : Except LoginError Verdict}
    (h : s.Told p moves c reference (.done (.returned result))) :
    s.Returns p moves c reference result := by
  obtain ⟨halt, halts, yields⟩ := h.halts
  have only (halt' : Halt) : s.HaltsAt p moves c reference halt' ↔ halt = halt' :=
    ⟨halts.unique hf, fun same => same ▸ halts⟩
  cases yields <;> constructor <;> simp [only]

lemma itinerary_of {reference host : String} (h : p.collaborators.resolveHost reference = .ok host)
    (inquiry : Option (Delayed (Except Cause Issued))) (token : IdentityToken) :
    p.itinerary reference inquiry.isSome token = .resolving reference :: (p.inquiryTurns inquiry ++
      match serverUrl host with
      | .error _ => []
      | .ok server => [.building server p.options, .exchanging (p.exchangeRequest host token),
        .reported p.sink host]) := by
  rw [Provider.itinerary, h]
  cases inquiry <;> rfl

lemma prefix_itinerary {reference host : String} {inquiry : Option (Delayed (Except Cause Issued))}
    (h : p.collaborators.resolveHost reference = .ok host) (token : IdentityToken) :
    .resolving reference :: (p.inquiryTurns inquiry ++ []) <+:
      p.itinerary reference inquiry.isSome token := by
  rw [itinerary_of h, List.cons_prefix_cons, List.prefix_append_right_inj]
  exact ⟨rfl, List.nil_prefix⟩

lemma Sent.server {host : String} {inquiry : Option (Delayed (Except Cause Issued))}
    {token : IdentityToken} {server : Url} {answer : Delayed (Except Cause (Option Secret))}
    (h : s.Sent p moves c host inquiry token server answer) : serverUrl host = .ok server := by
  obtain ⟨-, hs, -, -⟩ := h
  exact hs

lemma Journey.itinerary {reference : String} {inquiry : Option (Delayed (Except Cause Issued))}
    {further : List Event} {phase : Phase}
    (h : s.Journey p moves c reference inquiry further phase) :
    ∃ token, .resolving reference :: (p.inquiryTurns inquiry ++ further) <+:
      p.itinerary reference inquiry.isSome token := by
  -- an exchange that has not been sent has no token; any one stands for it
  let any : IdentityToken := ⟨⟨""⟩, s.shared.clock⟩
  cases h with
  | unresolved h =>
    refine ⟨any, ?_⟩
    rw [Provider.itinerary, h]
    exact List.prefix_rfl
  | waiting h => exact ⟨any, prefix_itinerary h any⟩
  | refreshing h => exact ⟨any, prefix_itinerary h any⟩
  | lost h => exact ⟨any, prefix_itinerary h any⟩
  | refused h => exact ⟨any, prefix_itinerary h any⟩
  | noUrl h => exact ⟨any, prefix_itinerary h any⟩
  | noClient h identified hs =>
    refine ⟨any, ?_⟩
    rw [itinerary_of h, hs, List.cons_prefix_cons, List.prefix_append_right_inj]
    simp
  | @exchanging host inquiry token server answer pauses h sent =>
    refine ⟨token, ?_⟩
    rw [itinerary_of h, sent.server, List.cons_prefix_cons, List.prefix_append_right_inj]
    simp
  | @quit host inquiry token server answer h sent =>
    refine ⟨token, ?_⟩
    rw [itinerary_of h, sent.server, List.cons_prefix_cons, List.prefix_append_right_inj]
    simp
  | @answered host inquiry token server answer now h sent =>
    refine ⟨token, ?_⟩
    rw [itinerary_of h, sent.server, List.cons_prefix_cons, List.prefix_append_right_inj]
    rcases answer.outcome with cause | _ | secret <;> simp [Provider.reportTurns]

lemma inquiryTurns_asks {inquiry : Option (Delayed (Except Cause Issued))} {event : Event}
    (h : event ∈ p.inquiryTurns inquiry) : event = .asked p.identityRequest := by
  cases inquiry with
  | none => cases h
  | some answer => exact List.mem_singleton.mp h

section

variable {reference : String} {inquiry : Option (Delayed (Except Cause Issued))} {further : List Event}
variable {phase : Phase}

lemma Journey.exchanging_mem (h : s.Journey p moves c reference inquiry further phase)
    {request : ExchangeRequest} (mem : .exchanging request ∈ further) : p.Requests reference request := by
  cases h with
  | unresolved => cases mem
  | waiting => cases mem
  | refreshing => cases mem
  | lost => cases mem
  | refused => cases mem
  | noUrl => cases mem
  | noClient => simp at mem
  | @exchanging _ _ token _ _ _ h =>
    obtain rfl : request = _ := by simpa using mem
    exact p.requests_exchangeRequest h token
  | @quit _ _ token _ _ h =>
    obtain rfl : request = _ := by simpa using mem
    exact p.requests_exchangeRequest h token
  | @answered host _ token _ answer _ h =>
    have unreported : .exchanging request ∉ p.reportTurns host answer.outcome := by
      rcases answer.outcome with _ | _ | _ <;> simp [Provider.reportTurns]
    obtain rfl : request = _ := by simpa [unreported] using mem
    exact p.requests_exchangeRequest h token

lemma Journey.reported_mem (h : s.Journey p moves c reference inquiry further phase)
    (inquires : s.Inquiry p moves c inquiry)
    (turns : (s.run p moves).shared.turnsBy c =
      .resolving reference :: (p.inquiryTurns inquiry ++ further))
    {sink : Sink} {host : String} (mem : .reported sink host ∈ further) :
    sink = p.sink ∧ (∃ ending, phase = .done ending) ∧
      ∃ secret, s.HaltsAt p moves c reference (.settled host (.ok (some secret))) := by
  cases h with
  | unresolved => cases mem
  | waiting => cases mem
  | refreshing => cases mem
  | lost => cases mem
  | refused => cases mem
  | noUrl => cases mem
  | noClient => simp at mem
  | exchanging => simp at mem
  | quit => simp at mem
  | @answered _ _ _ _ answer _ h sent =>
    have settled := HaltsAt.settled h inquires sent turns
    rcases ho : answer.outcome with cause | _ | secret
    · simp [ho, Provider.reportTurns] at mem
    · simp [ho, Provider.reportTurns] at mem
    · obtain ⟨rfl, rfl⟩ : sink = p.sink ∧ host = _ := by simpa [ho, Provider.reportTurns] using mem
      exact ⟨rfl, ⟨_, rfl⟩, secret, ho ▸ settled⟩

end

/-- The turns of a login keep to its itinerary, and the source is asked only for want of a fresh token.
Every result belongs to one point where the login has halted: from its turns and what its collaborators
have answered its result follows, and they follow from its result. -/
theorem provide_outcome (p : Provider World Client) (seed : TokenCache) (clock : Instant)
    (world : World) (moves : List Move) (c : Nat) (reference : String) (phase : Phase)
    (h : ((ofSeed seed clock world).run p moves).calls[c]? = some ⟨.provide reference, phase⟩) :
    let s := ofSeed seed clock world
    let turns := (s.run p moves).shared.turnsBy c
    (∃ asks token, turns <+: p.itinerary reference asks token ∧
      (asks = true → ∃ answer, s.Inquired p moves c answer)) ∧
    (∀ request, .exchanging request ∈ turns → p.Requests reference request) ∧
    (∀ sink host, .reported sink host ∈ turns → sink = p.sink ∧ (∃ ending, phase = .done ending) ∧
      ∃ secret, s.HaltsAt p moves c reference (.settled host (.ok (some secret)))) ∧
    ∀ result, phase = .done (.returned result) → s.Returns p moves c reference result := by
  intro s turns
  have told : s.Told p moves c reference phase := (run_chronicle p seed clock world moves c).told h
  refine ⟨?_, ?_, ?_, ?_⟩
  · obtain ⟨inquires, taken, journey⟩ := told
    obtain ⟨token, within⟩ := journey.itinerary
    refine ⟨_, token, taken ▸ within, fun asks => ?_⟩
    obtain ⟨answer, asked⟩ := Option.isSome_iff_exists.mp asks
    exact ⟨answer, (inquires answer).mpr asked⟩
  · intro request mem
    obtain ⟨inquires, taken, journey⟩ := told
    rw [show turns = _ from taken, List.mem_cons, List.mem_append] at mem
    rcases mem with first | inquiry | further
    · cases first
    · cases inquiryTurns_asks inquiry
    · exact journey.exchanging_mem further
  · intro sink host mem
    obtain ⟨inquires, taken, journey⟩ := told
    rw [show turns = _ from taken, List.mem_cons, List.mem_append] at mem
    rcases mem with first | inquiry | further
    · cases first
    · cases inquiryTurns_asks inquiry
    · exact journey.reported_mem inquires taken further
  · rintro result rfl
    exact told.outcome (ofSeed_onErrand seed clock world)

def answeredLater : List Move := [.start (.provide "r.io") false, .poll 0 false]

theorem provide_outcome_answeredLater :
    let p := Answers.numbered.provider
    let s := ofSeed .empty ⟨0, .utc, by decide, by decide⟩ 0
    let turns := (s.run p answeredLater).shared.turnsBy 0
    turns.length = 5 ∧ ∃ credential,
      (s.run p answeredLater).calls[0]? =
        some ⟨.provide "r.io", .done (.returned (.ok (.issued credential)))⟩ ∧
      (∃ asks token, turns <+: p.itinerary "r.io" asks token ∧
        (asks = true → ∃ answer, s.Inquired p answeredLater 0 answer)) ∧
      s.Returns p answeredLater 0 "r.io" (.ok (.issued credential)) := by
  intro p s turns
  have run : turns.length = 5 ∧
      ((s.run p answeredLater).calls[0]?.any (Call.isIssuedFor "r.io")) = true := by
    decide +kernel
  obtain ⟨taken, issued⟩ := run
  obtain ⟨call, hc, issued⟩ := (Option.any_eq_true _ _).mp issued
  obtain ⟨credential, rfl⟩ := Call.eq_of_isIssuedFor issued
  obtain ⟨within, -, -, outcome⟩ := provide_outcome p .empty ⟨0, .utc, by decide, by decide⟩ 0
    answeredLater 0 "r.io" _ hc
  exact ⟨taken, credential, hc, within, outcome _ rfl⟩

end Session

end RegistryLogin
