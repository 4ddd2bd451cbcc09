import RegistryLogin.Proofs.Record.Turns

/-! How far a login has got. -/

namespace RegistryLogin

namespace Session

variable {World Client : Type} (p : Provider World Client) (s : Session World)

def Inquired (moves : List Move) (c : Nat) (answer : Delayed (Except Cause Issued)) : Prop :=
  ∃ first m, first ++ [m] <+: moves ∧ (s.run p first).callOf m = c ∧ (s.run p first).Asks p m ∧
    p.freshFor (s.run p first).shared.side = some none ∧
    p.answerIn (s.run p first).shared.world = answer

def Inquiry (moves : List Move) (c : Nat) (inquiry : Option (Delayed (Except Cause Issued))) : Prop :=
  ∀ answer, s.Inquired p moves c answer ↔ inquiry = some answer

structure Gets (moves first : List Move) (m : Move) (c : Nat) : Prop where
  within : first ++ [m] <+: moves
  caller : (s.run p first).callOf m = c
  before : (s.run p first).Tokenless c
  after : ∃ phase, (s.run p (first ++ [m])).phaseOf c = some phase ∧ phase.hasToken = true

inductive Identified (moves : List Move) (c : Nat) (host : String)
    (inquiry : Option (Delayed (Except Cause Issued))) (token : IdentityToken) : World → Prop
  | intro {first : List Move} {m : Move} (gets : s.Gets p moves first m c)
      (finding : p.Finding (s.run p first).shared.side (.login host) inquiry (.finished (.ok token))) :
    Identified moves c host inquiry token ((s.run p first).worldMet p m)

inductive Sent (moves : List Move) (c : Nat) (host : String)
    (inquiry : Option (Delayed (Except Cause Issued))) (token : IdentityToken) (server : Url)
    (answer : Delayed (Except Cause (Option Secret))) : Prop
  | intro {world world' world'' : World} {client : Client}
      (identified : s.Identified p moves c host inquiry token world)
      (hs : serverUrl host = .ok server)
      (ho : p.collaborators.openClient server p.options world = (.ok client, world'))
      (hx : p.collaborators.exchange client (p.exchangeRequest host token) world' = (answer, world''))

inductive Journey (moves : List Move) (c : Nat) (reference : String) :
    Option (Delayed (Except Cause Issued)) → List Event → Phase → Prop
  | unresolved {error : HostError} (h : p.collaborators.resolveHost reference = .error error) :
    Journey moves c reference none [] (.done (.returned (.error (.hostResolution error))))
  | waiting {host : String} (h : p.collaborators.resolveHost reference = .ok host) :
    Journey moves c reference none [] (.waiting (.login host))
  | refreshing {host : String} {answer : Delayed (Except Cause Issued)} {pauses : Nat}
      (h : p.collaborators.resolveHost reference = .ok host) :
    Journey moves c reference (some answer) [] (.refreshing (.login host) ⟨pauses, answer.outcome⟩)
  | lost {host : String} {inquiry : Option (Delayed (Except Cause Issued))} {ending : Ending}
      (h : p.collaborators.resolveHost reference = .ok host)
      (lost : ending = .cancelled .identity ∨ ending = .overflowed .identity) :
    Journey moves c reference inquiry [] (.done ending)
  | refused {host : String} {answer : Delayed (Except Cause Issued)} {cause : Cause}
      (h : p.collaborators.resolveHost reference = .ok host) (refused : answer.outcome = .error cause) :
    Journey moves c reference (some answer) [] (.done (.returned (.error (.identityRefresh cause))))
  | noUrl {host : String} {inquiry : Option (Delayed (Except Cause Issued))} {token : IdentityToken}
      {world : World} {error : Url.Error} (h : p.collaborators.resolveHost reference = .ok host)
      (identified : s.Identified p moves c host inquiry token world)
      (hs : serverUrl host = .error error) :
    Journey moves c reference inquiry []
      (.done (.returned (.error (.clientConstruction (.url error)))))
  | noClient {host : String} {inquiry : Option (Delayed (Except Cause Issued))}
      {token : IdentityToken} {world world' : World} {server : Url} {cause : Cause}
      (h : p.collaborators.resolveHost reference = .ok host)
      (identified : s.Identified p moves c host inquiry token world)
      (hs : serverUrl host = .ok server)
      (ho : p.collaborators.openClient server p.options world = (.error cause, world')) :
    Journey moves c reference inquiry [.building server p.options]
      (.done (.returned (.error (.clientConstruction cause))))
  | exchanging {host : String} {inquiry : Option (Delayed (Except Cause Issued))}
      {token : IdentityToken} {server : Url} {answer : Delayed (Except Cause (Option Secret))}
      {pauses : Nat} (h : p.collaborators.resolveHost reference = .ok host)
      (sent : s.Sent p moves c host inquiry token server answer) :
    Journey moves c reference inquiry
      [.building server p.options, .exchanging (p.exchangeRequest host token)]
      (.exchanging host token ⟨pauses, answer.outcome⟩)
  | quit {host : String} {inquiry : Option (Delayed (Except Cause Issued))} {token : IdentityToken}
      {server : Url} {answer : Delayed (Except Cause (Option Secret))}
      (h : p.collaborators.resolveHost reference = .ok host)
      (sent : s.Sent p moves c host inquiry token server answer) :
    Journey moves c reference inquiry
      [.building server p.options, .exchanging (p.exchangeRequest host token)]
      (.done (.cancelled .exchange))
  | answered {host : String} {inquiry : Option (Delayed (Except Cause Issued))}
      {token : IdentityToken} {server : Url} {answer : Delayed (Except Cause (Option Secret))}
      (now : Instant) (h : p.collaborators.resolveHost reference = .ok host)
      (sent : s.Sent p moves c host inquiry token server answer) :
    Journey moves c reference inquiry
      ([.building server p.options, .exchanging (p.exchangeRequest host token)] ++
        p.reportTurns host answer.outcome)
      (.done (loginEnding host token now answer.outcome))

inductive Told (moves : List Move) (c : Nat) (reference : String) (phase : Phase) : Prop
  | intro {inquiry : Option (Delayed (Except Cause Issued))} {further : List Event}
      (inquires : s.Inquiry p moves c inquiry)
      (turns : (s.run p moves).shared.turnsBy c =
        .resolving reference :: (p.inquiryTurns inquiry ++ further))
      (journey : s.Journey p moves c reference inquiry further phase)

inductive Chronicle (moves : List Move) (c : Nat) : Prop
  | unstarted (calls : (s.run p moves).calls[c]? = none)
      (turns : (s.run p moves).shared.turnsBy c = []) (inquires : s.Inquiry p moves c none)
  | prime {phase : Phase} (calls : (s.run p moves).calls[c]? = some ⟨.prime, phase⟩)
  | login {reference : String} {phase : Phase}
      (calls : (s.run p moves).calls[c]? = some ⟨.provide reference, phase⟩)
      (told : s.Told p moves c reference phase)

inductive Bound (moves : List Move) (c : Nat) (reference : String) (taken : List Event) :
    Standing → Prop
  | aside {a : Standing} (ha : a.isAsking = false) (inquires : s.Inquiry p moves c none)
      (turns : taken = [.resolving reference]) : Bound moves c reference taken a
  | asking {answer : Delayed (Except Cause Issued)} {pauses : Nat}
      (inquires : s.Inquiry p moves c (some answer))
      (turns : taken = [.resolving reference, .asked p.identityRequest]) :
    Bound moves c reference taken (.asking ⟨pauses, answer.outcome⟩)

variable {p} {s} {moves : List Move} {c : Nat} {m : Move}

lemma prefix_snoc_iff {first : List Move} {m' : Move} :
    first ++ [m'] <+: moves ++ [m] ↔ first = moves ∧ m' = m ∨ first ++ [m'] <+: moves := by
  rw [List.prefix_concat_iff]
  simp

lemma inquired_snoc {answer : Delayed (Except Cause Issued)} :
    s.Inquired p (moves ++ [m]) c answer ↔ s.Inquired p moves c answer ∨
      (s.run p moves).callOf m = c ∧ (s.run p moves).Asks p m ∧
        p.freshFor (s.run p moves).shared.side = some none ∧
        p.answerIn (s.run p moves).shared.world = answer := by
  constructor
  · rintro ⟨first, m', within, asked⟩
    rcases prefix_snoc_iff.mp within with ⟨rfl, rfl⟩ | within
    · exact .inr asked
    · exact .inl ⟨first, m', within, asked⟩
  · rintro (⟨first, m', within, asked⟩ | asked)
    · exact ⟨first, m', within.trans (List.prefix_append moves [m]), asked⟩
    · exact ⟨moves, m, List.prefix_rfl, asked⟩

lemma Inquiry.silent {inquiry : Option (Delayed (Except Cause Issued))}
    (h : s.Inquiry p moves c inquiry) (hm : (s.run p moves).callOf m = c → ¬ (s.run p moves).Asks p m) :
    s.Inquiry p (moves ++ [m]) c inquiry := by
  intro answer
  rw [inquired_snoc, h answer]
  constructor
  · rintro (same | ⟨caller, asks, -⟩)
    · exact same
    · exact absurd asks (hm caller)
  · exact .inl

lemma Inquiry.asks (h : s.Inquiry p moves ((s.run p moves).callOf m) none)
    (asks : (s.run p moves).Asks p m)
    (stale : p.freshFor (s.run p moves).shared.side = some none) :
    s.Inquiry p (moves ++ [m]) ((s.run p moves).callOf m)
      (some (p.answerIn (s.run p moves).shared.world)) := by
  intro answer
  rw [inquired_snoc, h answer]
  constructor
  · rintro (none | ⟨-, -, -, same⟩)
    · cases none
    · exact congrArg some same
  · intro same
    exact .inr ⟨rfl, asks, stale, Option.some.inj same⟩

lemma asks_contacts (h : (s.run p moves).Asks p m) :
    (s.run p moves).newContacts p m ≠ [] ∧
      (s.run p moves).newContacts p m ≠ [.polled ((s.run p moves).callOf m)] := by
  rw [show (s.run p moves).newContacts p m = _ from h]
  exact ⟨by simp, by simp⟩

section

variable {reference host : String} {inquiry : Option (Delayed (Except Cause Issued))}
variable {token : IdentityToken} {server : Url} {answer : Delayed (Except Cause (Option Secret))}

lemma Identified.snoc {world : World} (h : s.Identified p moves c host inquiry token world) :
    s.Identified p (moves ++ [m]) c host inquiry token world := by
  obtain ⟨⟨within, caller, before, after⟩, finding⟩ := h
  exact .intro ⟨within.trans (List.prefix_append moves [m]), caller, before, after⟩ finding

lemma Sent.snoc (h : s.Sent p moves c host inquiry token server answer) :
    s.Sent p (moves ++ [m]) c host inquiry token server answer := by
  obtain ⟨identified, hs, ho, hx⟩ := h
  exact ⟨identified.snoc, hs, ho, hx⟩

lemma Journey.snoc {further : List Event} {phase : Phase}
    (h : s.Journey p moves c reference inquiry further phase) :
    s.Journey p (moves ++ [m]) c reference inquiry further phase := by
  cases h with
  | unresolved h => exact .unresolved h
  | waiting h => exact .waiting h
  | refreshing h => exact .refreshing h
  | lost h lost => exact .lost h lost
  | refused h refused => exact .refused h refused
  | noUrl h identified hs => exact .noUrl h identified.snoc hs
  | noClient h identified hs ho => exact .noClient h identified.snoc hs ho
  | exchanging h sent => exact .exchanging h sent.snoc
  | quit h sent => exact .quit h sent.snoc
  | answered now h sent => exact .answered now h sent.snoc

end

lemma Told.snoc {reference : String} {phase : Phase} (h : s.Told p moves c reference phase)
    (turns : (s.run p (moves ++ [m])).shared.turnsBy c = (s.run p moves).shared.turnsBy c)
    (silent : (s.run p moves).callOf m = c → ¬ (s.run p moves).Asks p m) :
    s.Told p (moves ++ [m]) c reference phase := by
  obtain ⟨inquires, taken, journey⟩ := h
  exact .intro (inquires.silent silent) (turns.trans taken) journey.snoc

lemma Chronicle.snoc (h : s.Chronicle p moves c)
    (calls : (s.run p (moves ++ [m])).calls[c]? = (s.run p moves).calls[c]?)
    (turns : (s.run p (moves ++ [m])).shared.turnsBy c = (s.run p moves).shared.turnsBy c)
    (silent : (s.run p moves).callOf m = c → ¬ (s.run p moves).Asks p m) :
    s.Chronicle p (moves ++ [m]) c := by
  cases h with
  | unstarted before taken inquires =>
    exact .unstarted (calls.trans before) (turns.trans taken) (inquires.silent silent)
  | prime before => exact .prime (calls.trans before)
  | login before told => exact .login (calls.trans before) (told.snoc turns silent)

lemma standing_some {s : Session World} {call : Call} (h : s.calls[c]? = some call) :
    s.standing c = call.phase.standing := by
  simp [standing, h]

lemma Told.bound {reference host : String} {phase : Phase} (h : s.Told p moves c reference phase)
    (seeks : phase.Seeks (.login host)) :
    s.Bound p moves c reference ((s.run p moves).shared.turnsBy c) phase.standing := by
  obtain ⟨inquires, turns, journey⟩ := h
  cases journey with
  | waiting => exact .aside rfl inquires turns
  | refreshing => exact .asking inquires turns
  | unresolved => cases seeks
  | lost => cases seeks
  | refused => cases seeks
  | noUrl => cases seeks
  | noClient => cases seeks
  | exchanging => cases seeks
  | quit => cases seeks
  | answered => cases seeks

lemma Chronicle.start (h : s.Chronicle p moves ((s.run p moves).callOf m)) {errand : Errand}
    {favoured : Bool} (hm : m = .start errand favoured) :
    (s.run p moves).shared.turnsBy ((s.run p moves).callOf m) = [] ∧
      s.Inquiry p moves ((s.run p moves).callOf m) none := by
  subst hm
  cases h with
  | unstarted calls turns inquires => exact ⟨turns, inquires⟩
  | prime calls => simp [callOf] at calls
  | login calls => simp [callOf] at calls

lemma Chronicle.told {reference : String} {phase : Phase} (h : s.Chronicle p moves c)
    (before : (s.run p moves).calls[c]? = some ⟨.provide reference, phase⟩) :
    s.Told p moves c reference phase := by
  cases h with
  | unstarted calls => cases before.symm.trans calls
  | prime calls => cases before.symm.trans calls
  | login calls told =>
    cases before.symm.trans calls
    exact told

lemma Chronicle.bound {reference host : String} {opening lead : List Line}
    (h : s.Chronicle p moves ((s.run p moves).callOf m))
    (origin : (s.run p moves).Origin m (.provide reference) (.login host) opening lead) :
    s.Bound p moves ((s.run p moves).callOf m) reference
      ((s.run p moves).shared.turnsBy ((s.run p moves).callOf m) ++
        Line.pick Event.isTurn (opening ++ lead))
      ((s.run p moves).standing ((s.run p moves).callOf m)) := by
  cases origin with
  | start hm =>
    obtain ⟨turns, inquires⟩ := h.start hm
    refine .aside ?_ inquires ?_
    · simp [hm, callOf, standing, Standing.isAsking]
    · rw [turns]
      rfl
  | poll before seeks =>
    rw [standing_some before, show Line.pick Event.isTurn ([] ++ []) = [] from rfl, List.append_nil]
    exact (h.told before).bound seeks

lemma Origin.before {s : Session World} {errand : Errand} {job : Job} {opening lead : List Line}
    (h : s.Origin m errand job opening lead) : s.Tokenless (s.callOf m) := by
  intro phase hp
  cases h with
  | start hm =>
    subst hm
    simp [phaseOf, callOf] at hp
  | poll before seeks =>
    rw [phaseOf, before] at hp
    cases hp
    exact ⟨job, seeks⟩

lemma Bound.searched {reference : String} {taken : List Event} {job : Job} {y : IdentitySide World}
    {r : Progress IdentityToken}
    (h : s.Bound p moves ((s.run p moves).callOf m) reference taken
      ((s.run p moves).standing ((s.run p moves).callOf m)))
    (inquires : p.Inquires ((s.run p moves).callOf m) (s.run p moves).shared.side job r
      ((s.run p moves).standing ((s.run p moves).callOf m)) y)
    (met : ((s.run p moves).move p m).shared.side.contacts = y.contacts) :
    ∃ inquiry, s.Inquiry p (moves ++ [m]) ((s.run p moves).callOf m) inquiry ∧
      p.Finding (s.run p moves).shared.side job inquiry r ∧
      taken ++ Line.pick Event.isTurn (searchLines ((s.run p moves).newContacts p m) r) =
        .resolving reference :: p.inquiryTurns inquiry := by
  generalize hs : (s.run p moves).standing ((s.run p moves).callOf m) = a at h inquires
  cases inquires with
  | silent ha contacts finding =>
    have new := newContacts_of_same p (s.run p moves) (met.trans contacts)
    cases h with
    | aside _ unasked turns =>
      refine ⟨none, unasked.silent fun _ asks => (asks_contacts asks).1 new, finding, ?_⟩
      rw [new, turns]
      rfl
    | asking => cases ha
  | asks ha stale contacts finding =>
    have new := newContacts_of_append p (s.run p moves) (met.trans contacts)
    cases h with
    | aside _ unasked turns =>
      refine ⟨_, unasked.asks new stale, finding, ?_⟩
      rw [new, turns, Provider.turns_search_asked]
      rfl
    | asking => cases ha
  | hears contacts finding =>
    have new := newContacts_of_append p (s.run p moves) (met.trans contacts)
    cases h with
    | aside ha => cases ha
    | asking asked turns =>
      refine ⟨_, asked.silent fun _ asks => (asks_contacts asks).2 new, finding _ rfl, ?_⟩
      rw [new, turns, Provider.turns_search_polled]
      rfl

lemma Sent.answered {reference host : String} {inquiry : Option (Delayed (Except Cause Issued))}
    {token : IdentityToken} {server : Url} {answer left : Delayed (Except Cause (Option Secret))}
    {now : Instant} {next : Phase} (sent : s.Sent p moves c host inquiry token server answer)
    (h : p.collaborators.resolveHost reference = .ok host)
    (answered : Provider.Answered host token now left next) (same : left.outcome = answer.outcome) :
    s.Journey p moves c reference inquiry
      ([.building server p.options, .exchanging (p.exchangeRequest host token)] ++
        Line.pick Event.isTurn (p.endLines host next)) next := by
  cases answered with
  | pending pauses outcome =>
    obtain rfl : outcome = answer.outcome := same
    exact .exchanging h sent
  | settled outcome =>
    obtain rfl : outcome = answer.outcome := same
    rw [p.turns_end]
    exact .answered now h sent

lemma Identified.connected {reference host : String}
    {inquiry : Option (Delayed (Except Cause Issued))} {token : IdentityToken} {world world' : World}
    {now : Instant} {next : Phase} (identified : s.Identified p moves c host inquiry token world)
    (h : p.collaborators.resolveHost reference = .ok host)
    (connected : p.Connected host token now world world' next) :
    s.Journey p moves c reference inquiry
      (Line.pick Event.isTurn (p.exchangeLines host token world next)) next := by
  rw [p.turns_exchange]
  cases connected with
  | noUrl hs =>
    rw [Provider.connectLines, hs]
    exact .noUrl h identified hs
  | noClient hs ho =>
    rw [Provider.connectLines, hs]
    simp only [ho]
    exact .noClient h identified hs ho
  | opened hs ho hx answered =>
    rw [Provider.connectLines, hs]
    simp only [ho]
    exact (Sent.intro identified hs ho hx).answered h answered rfl

lemma journey_of_course {reference host : String}
    {inquiry : Option (Delayed (Except Cause Issued))} {r : Progress IdentityToken}
    {y : IdentitySide World} {next : Phase} (h : p.collaborators.resolveHost reference = .ok host)
    (finding : p.Finding (s.run p moves).shared.side (.login host) inquiry r)
    (course : p.Course y next (.login host) r)
    (before : (s.run p moves).Tokenless ((s.run p moves).callOf m))
    (after : (s.run p (moves ++ [m])).phaseOf ((s.run p moves).callOf m) = some next)
    (met : ∀ token, r = .finished (.ok token) → (s.run p moves).worldMet p m = y.world) :
    s.Journey p (moves ++ [m]) ((s.run p moves).callOf m) reference inquiry
      (Line.pick Event.isTurn (p.proceedLines (.login host) r y.world next)) next := by
  cases course with
  | seeks =>
    cases finding with
    | waits => exact .waiting h
    | pending => exact .refreshing h
  | overflowed hn =>
    subst hn
    exact .lost h (.inr rfl)
  | refused cause hn =>
    subst hn
    cases finding with
    | refused refused => exact .refused h refused
  | @connected _ token _ connected =>
    have identified : s.Identified p (moves ++ [m]) ((s.run p moves).callOf m) host inquiry token
        y.world :=
      met token rfl ▸ .intro ⟨List.prefix_rfl, rfl, before, next, after, connected.hasToken⟩ finding
    exact identified.connected h connected

lemma host_of_job {reference : String} {job : Job} (h : p.jobOf (.provide reference) = .ok job) :
    ∃ host, p.collaborators.resolveHost reference = .ok host ∧ job = .login host := by
  cases hr : p.collaborators.resolveHost reference with
  | error error => simp [Provider.jobOf, hr, Except.map] at h
  | ok host => exact ⟨host, rfl, by simpa [Provider.jobOf, hr, Except.map] using h.symm⟩

lemma turns_pursued (host : String) (opening lead body : List Line) (next : Phase) :
    Line.pick Event.isTurn (opening ++ (Job.login host).lines lead body next) =
      Line.pick Event.isTurn (opening ++ lead) ++ Line.pick Event.isTurn body := by
  simp [Job.lines, Provider.turns_close]

section

variable {reference host : String}
variable (resolved : p.collaborators.resolveHost reference = .ok host)
include resolved

lemma Bound.pursued {taken : List Event} {favoured : Bool} {y : IdentitySide World}
    {r : Progress IdentityToken} {next : Phase}
    (h : s.Bound p moves ((s.run p moves).callOf m) reference taken
      ((s.run p moves).standing ((s.run p moves).callOf m)))
    (before : (s.run p moves).Tokenless ((s.run p moves).callOf m))
    (sought : Provider.Sought p ((s.run p moves).callOf m) (.login host) favoured
      (s.run p moves).shared.side ((s.run p moves).standing ((s.run p moves).callOf m)) y r)
    (concluded : Provider.Concluded p y (.login host) r ((s.run p moves).move p m).shared.side next)
    (after : (s.run p (moves ++ [m])).phaseOf ((s.run p moves).callOf m) = some next)
    (turns : (s.run p (moves ++ [m])).shared.turnsBy ((s.run p moves).callOf m) =
      taken ++ Line.pick Event.isTurn (searchLines ((s.run p moves).newContacts p m) r ++
        p.proceedLines (.login host) r y.world next)) :
    s.Told p (moves ++ [m]) ((s.run p moves).callOf m) reference next := by
  obtain ⟨inquiry, inquires, finding, searched⟩ := h.searched sought.inquires concluded.contacts
  refine .intro inquires ?_
    (journey_of_course resolved finding (concluded.course sought.search) before after ?_)
  · rw [turns, Line.pick_append, ← List.append_assoc, searched]
    rfl
  · rintro token rfl
    exact worldMet_obtained p _ (sought.obtained rfl) concluded.contacts

lemma Bound.withdrawn {a : Standing}
    (h : s.Bound p moves c reference ((s.run p moves).shared.turnsBy c) a)
    (silent : (s.run p moves).callOf m = c → ¬ (s.run p moves).Asks p m)
    (turns : (s.run p (moves ++ [m])).shared.turnsBy c = (s.run p moves).shared.turnsBy c) :
    s.Told p (moves ++ [m]) c reference (.done (.cancelled .identity)) := by
  cases h with
  | aside _ inquires taken =>
    exact .intro (inquires.silent silent) (turns.trans taken) (.lost resolved (.inl rfl))
  | asking inquires taken =>
    exact .intro (inquires.silent silent) (turns.trans taken) (.lost resolved (.inl rfl))

end

section

variable {reference host : String} {token : IdentityToken}
variable {answer : Delayed (Except Cause (Option Secret))}
variable (h : s.Told p moves c reference (.exchanging host token answer))
variable (silent : (s.run p moves).callOf m = c → ¬ (s.run p moves).Asks p m)
include h silent

lemma Told.exchanged {now : Instant} {next : Phase}
    (answered : Provider.Answered host token now answer next)
    (turns : (s.run p (moves ++ [m])).shared.turnsBy c =
      (s.run p moves).shared.turnsBy c ++ Line.pick Event.isTurn (p.pollExchangeLines host next)) :
    s.Told p (moves ++ [m]) c reference next := by
  obtain ⟨inquires, taken, journey⟩ := h
  cases journey with
  | exchanging resolved sent =>
    refine .intro (inquires.silent silent) ?_ (sent.snoc.answered resolved answered rfl)
    rw [turns, p.turns_pollExchange, taken]
    simp

lemma Told.abandoned
    (turns : (s.run p (moves ++ [m])).shared.turnsBy c = (s.run p moves).shared.turnsBy c) :
    s.Told p (moves ++ [m]) c reference (.done (.cancelled .exchange)) := by
  obtain ⟨inquires, taken, journey⟩ := h
  cases journey with
  | exchanging resolved sent =>
    exact .intro (inquires.silent silent) (turns.trans taken) (.quit resolved sent.snoc)

end

lemma Chronicle.reported {lines : List Line} (h : s.Chronicle p moves ((s.run p moves).callOf m))
    (reports : (s.run p moves).Reports p m lines)
    (turns : (s.run p (moves ++ [m])).shared.turnsBy ((s.run p moves).callOf m) =
      (s.run p moves).shared.turnsBy ((s.run p moves).callOf m) ++ Line.pick Event.isTurn lines) :
    s.Chronicle p (moves ++ [m]) ((s.run p moves).callOf m) := by
  have hm := s.run_snoc p moves m
  -- what keeps off the source leaves the inquiry as it was
  have silent (contacts : (s.run p moves).newContacts p m = []) :
      (s.run p moves).callOf m = (s.run p moves).callOf m → ¬ (s.run p moves).Asks p m :=
    fun _ asks => (asks_contacts asks).1 contacts
  cases reports with
  | idle still _ contacts =>
    exact h.snoc (hm ▸ still) (turns.trans (List.append_nil _)) (silent contacts)
  | unresolved start unresolved after _ contacts =>
    obtain ⟨taken, inquires⟩ := h.start start
    refine .login (hm ▸ after) (.intro (inquires.silent (silent contacts)) ?_ (.unresolved unresolved))
    rw [turns, taken]
    rfl
  | @pursued errand job favoured opening lead y r next onErrand origin sought concluded after =>
    cases errand with
    | prime => exact .prime (hm ▸ after)
    | provide reference =>
      obtain ⟨host, resolved, rfl⟩ := host_of_job onErrand
      refine .login (hm ▸ after)
        ((h.bound origin).pursued resolved origin.before sought concluded ?_ ?_)
      · rw [hm, phaseOf, after]
        rfl
      · rw [turns, turns_pursued, List.append_assoc]
  | @exchanging errand _ _ _ _ onErrand before answered after side =>
    have contacts := newContacts_of_same p _ (congrArg IdentitySide.contacts side)
    cases errand with
    | prime => cases onErrand
    | provide reference =>
      exact .login (hm ▸ after) ((h.told before).exchanged (silent contacts) answered turns)
  | @withdrawn errand _ _ onErrand before seeks _ after _ contacts =>
    cases errand with
    | prime => exact .prime (hm ▸ after)
    | provide reference =>
      obtain ⟨host, resolved, rfl⟩ := host_of_job onErrand
      have bound := (h.told before).bound seeks
      exact .login (hm ▸ after)
        (bound.withdrawn resolved (silent contacts) (turns.trans (List.append_nil _)))
  | @abandoned errand _ _ _ onErrand before after side =>
    have contacts := newContacts_of_same p _ (congrArg IdentitySide.contacts side)
    cases errand with
    | prime => cases onErrand
    | provide reference =>
      exact .login (hm ▸ after)
        ((h.told before).abandoned (silent contacts) (turns.trans (List.append_nil _)))

lemma Chronicle.step (hf : (s.run p moves).OnErrand p) (h : s.Chronicle p moves c) (m : Move) :
    s.Chronicle p (moves ++ [m]) c := by
  obtain ⟨lines, writes, reports⟩ := move_written p hf m
  rw [← run_snoc] at writes
  have turns := writes.turnsBy c
  by_cases own : (s.run p moves).callOf m = c
  · subst own
    rw [if_pos rfl] at turns
    exact h.reported reports turns
  · rw [if_neg own, List.append_nil] at turns
    refine h.snoc ?_ turns fun same => absurd same own
    rw [run_snoc]
    exact move_calls_other m (Ne.symm own)

theorem run_chronicle (p : Provider World Client) (seed : TokenCache) (clock : Instant) (world : World)
    (moves : List Move) (c : Nat) : (ofSeed seed clock world).Chronicle p moves c := by
  induction moves using List.reverseRecOn with
  | nil =>
    refine .unstarted ?_ rfl fun answer => ?_
    · simp [run, ofSeed, initial]
    · simp [Inquired]
  | append_singleton moves m ih => exact ih.step (run_onErrand (ofSeed_onErrand seed clock world) moves) m

end Session

end RegistryLogin
