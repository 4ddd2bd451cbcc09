import RegistryLogin.Proofs.Record.Conservation

namespace RegistryLogin

namespace Event

def ofIdentity : Event → Bool
  | .opened .identityRefresh => true
  | .counted .identityRefresh _ => true
  | .asked _ => true
  | .sourcePolled => true
  | .refreshed _ => true
  | _ => false

def ofExchange : Event → Bool
  | .counted .registryExchange _ => true
  | .reported _ _ => true
  | .exchanged _ => true
  | _ => false

end Event

namespace Line

def pick (K : Event → Bool) (lines : List Line) : List Event := (lines.map (·.event)).filter K

variable (K : Event → Bool) (lines more : List Line)

@[simp] lemma pick_nil : pick K [] = [] := rfl

@[simp] lemma pick_cons (l : Line) :
    pick K (l :: lines) = (if K l.event then [l.event] else []) ++ pick K lines := by
  simp only [pick, List.map_cons, List.filter_cons]
  split <;> rfl

@[simp] lemma pick_append : pick K (lines ++ more) = pick K lines ++ pick K more := by
  simp [pick]

@[simp] lemma pick_inside (flow : Flow) : pick K (lines.map (.inside flow)) = pick K lines := by
  rw [pick, events_inside, pick]

lemma countP_pick {g : Event → Bool} (h : ∀ event, g event = true → K event = true) :
    (pick K lines).countP g = lines.countP fun l => g l.event := by
  rw [pick, List.countP_filter, List.countP_map]
  congr 1
  funext l
  cases hg : g l.event with
  | false => simp [hg]
  | true => simp [hg, h _ hg]

end Line

namespace Phase

def hasToken : Phase → Bool
  | .exchanging _ _ _ => true
  | .done (.returned (.ok _)) => true
  | .done (.returned (.error (.clientConstruction _))) => true
  | .done (.returned (.error (.registryExchange _))) => true
  | .done (.returned (.error (.missingRefreshToken _))) => true
  | .done (.overflowed .exchange) => true
  | .done (.cancelled .exchange) => true
  | _ => false

lemma Seeks.hasToken {job : Job} {phase : Phase} (h : phase.Seeks job) : phase.hasToken = false := by
  cases phase with
  | waiting => rfl
  | refreshing => rfl
  | exchanging => cases h
  | done => cases h

end Phase

namespace Provider

variable {World Client : Type} (p : Provider World Client)

def hostOf (errand : Errand) : Option String :=
  match p.jobOf errand with
  | .ok (.login host) => some host
  | _ => none

def exchangeHistory (host : String) (phase : Phase) : List Event :=
  if phase.hasToken then .counted .registryExchange .attempt :: (p.endLines host phase).map (·.event)
  else []

def historyOf (call : Call) : List Event :=
  (p.hostOf call.errand).elim [] fun host => p.exchangeHistory host call.phase

variable {p}

lemma hostOf_login {errand : Errand} {host : String} (h : p.jobOf errand = .ok (.login host)) :
    p.hostOf errand = some host := by
  rw [hostOf, h]

lemma hostOf_warmUp {errand : Errand} (h : p.jobOf errand = .ok .warmUp) : p.hostOf errand = none := by
  rw [hostOf, h]

lemma historyOf_tokenless {phase : Phase} (h : phase.hasToken = false) (errand : Errand) :
    p.historyOf ⟨errand, phase⟩ = [] := by
  simp only [historyOf, exchangeHistory, h]
  cases p.hostOf errand <;> rfl

lemma historyOf_exchanging {errand : Errand} {host : String}
    (h : p.jobOf errand = .ok (.login host)) (token : IdentityToken)
    (answer : Delayed (Except Cause (Option Secret))) :
    p.historyOf ⟨errand, .exchanging host token answer⟩ = [.counted .registryExchange .attempt] := by
  rw [historyOf, hostOf_login h]
  rfl

lemma historyOf_hasToken {errand : Errand} {host : String} {phase : Phase}
    (h : p.jobOf errand = .ok (.login host)) (token : phase.hasToken = true) :
    p.historyOf ⟨errand, phase⟩ =
      .counted .registryExchange .attempt :: (p.endLines host phase).map (·.event) := by
  simp only [historyOf, hostOf_login h, Option.elim_some, exchangeHistory, token, if_true]

lemma Answered.hasToken {host : String} {token : IdentityToken} {now : Instant} {phase : Phase}
    {answer : Delayed (Except Cause (Option Secret))} (h : Answered host token now answer phase) :
    phase.hasToken = true := by
  cases h with
  | pending => rfl
  | settled outcome =>
    rcases outcome with cause | _ | secret
    · rfl
    · rfl
    · rw [loginEnding]
      cases Credential.earlierExpiry? token.expiresOn now <;> rfl

lemma Connected.hasToken {host : String} {token : IdentityToken} {now : Instant}
    {world world' : World} {phase : Phase} (h : Connected p host token now world world' phase) :
    phase.hasToken = true := by
  cases h with
  | noUrl => rfl
  | noClient => rfl
  | opened _ _ _ answered => exact answered.hasToken

lemma pick_opening {K : Event → Bool} (opened : K (.opened .provide) = false)
    (counted : K (.counted .provide .attempt) = false) (errand : Errand) :
    Line.pick K errand.opening = [] := by
  cases errand with
  | prime => rfl
  | provide reference => simp [Errand.opening, Line.plain, opened, counted]

lemma pick_resolving {K : Event → Bool} (h : ∀ reference, K (.resolving reference) = false)
    (errand : Errand) : Line.pick K errand.resolving = [] := by
  cases errand with
  | prime => rfl
  | provide reference => simp [Errand.resolving, Line.plain, h]

lemma pick_close {K : Event → Bool} (h : ∀ outcome, K (.counted .provide outcome) = false)
    (phase : Phase) : Line.pick K (closeLines phase) = [] := by
  rcases phase with _ | _ | _ | ((_ | _) | _ | _) <;> simp [closeLines, Line.plain, h]

lemma pick_search (contacts : List Contact) (r : Progress IdentityToken) :
    Line.pick Event.ofExchange (searchLines contacts r) = [] := by
  have met : Line.pick Event.ofExchange (contacts.flatMap Contact.lines) = [] := by
    induction contacts with
    | nil => rfl
    | cons contact contacts ih =>
      rw [List.flatMap_cons, Line.pick_append, ih]
      cases contact <;> rfl
  rw [searchLines, Line.pick_append, met, List.nil_append]
  split
  · rfl
  · rcases r with _ | (_ | _) | _ <;> rfl

variable (p)

lemma pick_connect {K : Event → Bool} (building : ∀ server options, K (.building server options) = false)
    (exchanging : ∀ request, K (.exchanging request) = false) (polled : K .exchangePolled = false)
    (host : String) (token : IdentityToken) (world : World) :
    Line.pick K (p.connectLines host token world) = [] := by
  rw [connectLines]
  split
  · rfl
  · split <;> simp [Line.plain, building, exchanging, polled]

lemma pick_end (host : String) (phase : Phase) :
    Line.pick Event.ofExchange (p.endLines host phase) = (p.endLines host phase).map (·.event) :=
  List.filter_eq_self.mpr
    (List.forall_mem_map.mpr (p.forall_mem_endLines host phase (fun _ => rfl) rfl rfl))

lemma pick_exchange (host : String) (token : IdentityToken) (world : World) (next : Phase) :
    Line.pick Event.ofExchange (p.exchangeLines host token world next) =
      .counted .registryExchange .attempt :: (p.endLines host next).map (·.event) := by
  have connect : Line.pick Event.ofExchange (p.connectLines host token world) = [] :=
    p.pick_connect (fun _ _ => rfl) (fun _ => rfl) rfl host token world
  rw [exchangeLines, Line.pick_append, Line.pick_append, Line.pick_inside, connect, pick_end]
  rfl

lemma pick_identity_end (host : String) (phase : Phase) :
    Line.pick Event.ofIdentity (p.endLines host phase) = [] :=
  List.filter_eq_nil_iff.mpr
    (List.forall_mem_map.mpr (p.forall_mem_endLines host phase (fun _ => nofun) nofun nofun))

lemma pick_identity_proceed (job : Job) (r : Progress IdentityToken) (world : World) (next : Phase) :
    Line.pick Event.ofIdentity (p.proceedLines job r world next) = [] := by
  rcases job with _ | host
  · rfl
  · rcases r with _ | (_ | token) | _
    · rfl
    · rfl
    · have connect : Line.pick Event.ofIdentity (p.connectLines host token world) = [] :=
        p.pick_connect (fun _ _ => rfl) (fun _ => rfl) rfl host token world
      rw [proceedLines, exchangeLines, Line.pick_append, Line.pick_append, Line.pick_inside, connect,
        pick_identity_end]
      rfl
    · rfl

lemma pick_proceed_past {y : IdentitySide World} {errand : Errand} {job : Job} {next : Phase}
    {r : Progress IdentityToken} (h : p.Course y next job r) (onErrand : p.jobOf errand = .ok job) :
    Line.pick Event.ofExchange (p.proceedLines job r y.world next) = p.historyOf ⟨errand, next⟩ := by
  cases h with
  | seeks seeks =>
    rw [historyOf_tokenless seeks.hasToken]
    cases job <;> rfl
  | overflowed hn =>
    rw [historyOf_tokenless (by rw [hn]; rfl)]
    cases job <;> rfl
  | refused cause hn =>
    rw [historyOf_tokenless (by rw [hn]; rfl)]
    cases job <;> rfl
  | primed token hn =>
    rw [historyOf, hostOf_warmUp onErrand]
    rfl
  | connected connected =>
    rw [historyOf_hasToken onErrand connected.hasToken]
    exact p.pick_exchange _ _ _ next

end Provider

namespace Session

variable {World Client : Type} (p : Provider World Client) (s : Session World)

def historyAt (c : Nat) : List Event := s.calls[c]?.elim [] p.historyOf

variable {p} {s}

lemma historyAt_some {c : Nat} {call : Call} (h : s.calls[c]? = some call) :
    s.historyAt p c = p.historyOf call := by
  rw [historyAt, h]
  rfl

lemma historyAt_start {m : Move} {errand : Errand} {favoured : Bool} (h : m = .start errand favoured) :
    s.historyAt p (s.callOf m) = [] := by
  simp [historyAt, callOf, h]

lemma Origin.silent {m : Move} {errand : Errand} {job : Job} {opening lead : List Line}
    (h : s.Origin m errand job opening lead) :
    Line.pick Event.ofExchange (opening ++ lead) = [] ∧ s.historyAt p (s.callOf m) = [] := by
  cases h with
  | start hm =>
    rw [Line.pick_append, Provider.pick_opening rfl rfl, Provider.pick_resolving fun _ => rfl]
    exact ⟨rfl, historyAt_start hm⟩
  | poll before seeks =>
    exact ⟨rfl, (historyAt_some before).trans (Provider.historyOf_tokenless seeks.hasToken errand)⟩

lemma Reports.continues {m : Move} {lines : List Line} (h : s.Reports p m lines) :
    (s.move p m).historyAt p (s.callOf m) =
      s.historyAt p (s.callOf m) ++ Line.pick Event.ofExchange lines := by
  cases h with
  | idle still => simp [historyAt, still]
  | unresolved hm unresolved after =>
    rw [historyAt_some after, Provider.historyOf_tokenless rfl, historyAt_start hm]
    rfl
  | @pursued errand job favoured opening lead y r next onErrand origin sought concluded after =>
    obtain ⟨silent, before⟩ := origin.silent (p := p)
    have past := p.pick_proceed_past (concluded.course sought.search) onErrand
    rw [historyAt_some after, before, ← past]
    rw [Line.pick_append, List.append_eq_nil_iff] at silent
    have close : Line.pick Event.ofExchange (closeLines next) = [] :=
      Provider.pick_close (fun _ => rfl) next
    cases job with
    | warmUp => simp [Job.lines, silent, Provider.pick_search]
    | login host => simp [Job.lines, silent, Provider.pick_search, close]
  | @exchanging errand host token next answer onErrand before answered after =>
    have close : Line.pick Event.ofExchange (closeLines next) = [] :=
      Provider.pick_close (fun _ => rfl) next
    rw [historyAt_some after, historyAt_some before, Provider.historyOf_exchanging onErrand,
      Provider.historyOf_hasToken onErrand answered.hasToken, Provider.pollExchangeLines,
      Line.pick_append, Line.pick_inside, close, Line.pick_cons, p.pick_end]
    simp [Event.ofExchange]
  | withdrawn onErrand before seeks hm after =>
    rw [historyAt_some after, historyAt_some before, Provider.historyOf_tokenless rfl,
      Provider.historyOf_tokenless seeks.hasToken]
    rfl
  | abandoned onErrand before after =>
    rw [historyAt_some after, historyAt_some before, Provider.historyOf_exchanging onErrand,
      Provider.historyOf_hasToken onErrand rfl]
    rfl

lemma Reports.identity {m : Move} {lines : List Line} (h : s.Reports p m lines) :
    ∃ r, Line.pick Event.ofIdentity lines =
      Line.pick Event.ofIdentity (searchLines (s.newContacts p m) r) := by
  cases h with
  | idle still count contacts => exact ⟨.overflowed .identity, by rw [contacts]; rfl⟩
  | unresolved _ _ _ _ contacts => exact ⟨.overflowed .identity, by rw [contacts]; rfl⟩
  | @pursued errand job favoured opening lead y r next onErrand origin =>
    refine ⟨r, ?_⟩
    have leads : Line.pick Event.ofIdentity opening = [] ∧ Line.pick Event.ofIdentity lead = [] := by
      cases origin with
      | start => exact ⟨Provider.pick_opening rfl rfl errand, Provider.pick_resolving (fun _ => rfl) errand⟩
      | poll => exact ⟨rfl, rfl⟩
    have close : Line.pick Event.ofIdentity (closeLines next) = [] :=
      Provider.pick_close (fun _ => rfl) next
    cases job with
    | warmUp => simp [Job.lines, leads, p.pick_identity_proceed]
    | login host => simp [Job.lines, leads, p.pick_identity_proceed, close]
  | @exchanging errand host token next answer _ _ _ _ side =>
    refine ⟨.overflowed .identity, ?_⟩
    have close : Line.pick Event.ofIdentity (closeLines next) = [] :=
      Provider.pick_close (fun _ => rfl) next
    rw [newContacts_of_same p s (congrArg IdentitySide.contacts side), Provider.pollExchangeLines,
      Line.pick_append, Line.pick_inside, close, Line.pick_cons, p.pick_identity_end]
    rfl
  | withdrawn _ _ _ _ _ _ contacts => exact ⟨.overflowed .identity, by rw [contacts]; rfl⟩
  | abandoned _ _ _ side =>
    refine ⟨.overflowed .identity, ?_⟩
    rw [newContacts_of_same p s (congrArg IdentitySide.contacts side)]
    rfl

lemma Reports.balanced {m : Move} {lines : List Line} (h : s.Reports p m lines) {g g' : Event → Bool}
    (inside : ∀ event, g event = true ∨ g' event = true → event.ofIdentity = true)
    (met : ∀ contact : Contact, contact.lines.countP (fun l => g l.event) =
      contact.lines.countP fun l => g' l.event)
    (settled : ∀ r, (settledLines r).countP (fun l => g l.event) =
      (settledLines r).countP fun l => g' l.event) :
    lines.countP (fun l => g l.event) = lines.countP fun l => g' l.event := by
  have searched (contacts : List Contact) (r : Progress IdentityToken) :
      (searchLines contacts r).countP (fun l => g l.event) =
        (searchLines contacts r).countP fun l => g' l.event := by
    have all : (contacts.flatMap Contact.lines).countP (fun l => g l.event) =
        (contacts.flatMap Contact.lines).countP fun l => g' l.event := by
      induction contacts with
      | nil => rfl
      | cons contact contacts ih =>
        rw [List.flatMap_cons, List.countP_append, List.countP_append, met, ih]
    rw [searchLines, List.countP_append, List.countP_append, all]
    split
    · rfl
    · rw [settled]
  obtain ⟨r, same⟩ := h.identity
  rw [← Line.countP_pick Event.ofIdentity lines fun event hg => inside event (.inl hg),
    ← Line.countP_pick Event.ofIdentity lines fun event hg => inside event (.inr hg), same,
    Line.countP_pick Event.ofIdentity _ fun event hg => inside event (.inl hg),
    Line.countP_pick Event.ofIdentity _ fun event hg => inside event (.inr hg), searched]

end Session

end RegistryLogin
