import RegistryLogin.Proofs.Exchange.Tokens
import RegistryLogin.Proofs.Record.Histories

/-! The turns of a call: what it has called its collaborators for, in order. -/

namespace RegistryLogin

namespace Event

def isTurn : Event → Bool
  | .resolving _ => true
  | .asked _ => true
  | .building _ _ => true
  | .exchanging _ => true
  | .reported _ _ => true
  | _ => false

end Event

def Shared.turnsBy {World : Type} (s : Shared World) (c : Nat) : List Event :=
  (s.trace.filter fun entry => entry.call = c && entry.event.isTurn).map (·.event)

lemma Writes.turnsBy {World : Type} {call : Nat} {s t : Shared World} {lines : List Line}
    (h : Writes call s t lines) (c : Nat) :
    t.turnsBy c = s.turnsBy c ++ if call = c then Line.pick Event.isTurn lines else [] := by
  rw [Shared.turnsBy, h.trace, List.filter_append, List.map_append, Shared.turnsBy, List.filter_map,
    List.map_map]
  congr 1
  split
  · rename_i own
    rw [Line.pick, List.filter_map]
    simp [Function.comp_def, Line.entry, own]
  · rename_i other
    simp [Function.comp_def, Line.entry, other]

namespace Provider

variable {World Client : Type} (p : Provider World Client)

def inquiryTurns : Option (Delayed (Except Cause Issued)) → List Event
  | none => []
  | some _ => [.asked p.identityRequest]

inductive Finding (x : IdentitySide World) (job : Job) :
    Option (Delayed (Except Cause Issued)) → Progress IdentityToken → Prop
  | waits : Finding x job none (.suspended (.waiting job))
  | found {token : IdentityToken} (fresh : p.freshFor x = some (some token)) :
    Finding x job none (.finished (.ok token))
  | overflowed (inquiry : Option (Delayed (Except Cause Issued))) :
    Finding x job inquiry (.overflowed .identity)
  | pending {answer : Delayed (Except Cause Issued)} (pauses : Nat) :
    Finding x job (some answer) (.suspended (.refreshing job ⟨pauses, answer.outcome⟩))
  | refused {answer : Delayed (Except Cause Issued)} {cause : Cause}
      (outcome : answer.outcome = .error cause) :
    Finding x job (some answer) (.finished (.error (.identityRefresh cause)))
  | issued {answer : Delayed (Except Cause Issued)} {issued : Issued} {token : IdentityToken}
      (outcome : answer.outcome = .ok issued) (valid : issued.token? x.clock = some token) :
    Finding x job (some answer) (.finished (.ok token))

variable (call : Nat)

inductive Inquires (x : IdentitySide World) (job : Job) (r : Progress IdentityToken) :
    Standing → IdentitySide World → Prop
  | silent {a : Standing} {y : IdentitySide World} (ha : a.isAsking = false)
      (contacts : y.contacts = x.contacts) (finding : p.Finding x job none r) : Inquires x job r a y
  | asks {a : Standing} {y : IdentitySide World} (ha : a.isAsking = false)
      (stale : p.freshFor x = some none)
      (contacts : y.contacts = x.contacts ++ [.asked call p.identityRequest, .polled call])
      (finding : p.Finding x job (some (p.answerIn x.world)) r) : Inquires x job r a y
  | hears {answer : Delayed (Except Cause Issued)} {y : IdentitySide World}
      (contacts : y.contacts = x.contacts ++ [.polled call])
      (finding : ∀ asked : Delayed (Except Cause Issued), asked.outcome = answer.outcome →
        p.Finding x job (some asked) r) : Inquires x job r (.asking answer) y

variable {p} {call} {x x' y : IdentitySide World} {job : Job} {r : Progress IdentityToken}

lemma Heard.finding {answer asked : Delayed (Except Cause Issued)} (h : Heard call job x' answer y r)
    (clock : x'.clock = x.clock) (outcome : asked.outcome = answer.outcome) :
    p.Finding x job (some asked) r := by
  cases h with
  | pending pauses answered =>
    obtain rfl : asked.outcome = answered := outcome
    exact .pending pauses
  | failed cause => exact .refused outcome
  | panicked => exact .overflowed _
  | returned issued token valid => exact .issued outcome (clock ▸ valid)

lemma Renewed.inquires {a : Standing} (h : Renewed p call job (x.takenBy call) y r)
    (ha : a.isAsking = false) : p.Inquires call x job r a y := by
  cases h with
  | overflowed => exact .silent ha rfl (.overflowed none)
  | reused token fresh => exact .silent ha rfl (.found fresh)
  | asked stale heard =>
    refine .asks ha stale ?_ (heard.finding rfl rfl)
    exact heard.contacts.trans (List.append_assoc x.contacts [_] [_])

lemma Sought.inquires {favoured : Bool} {a : Standing} (h : Sought p call job favoured x a y r) :
    p.Inquires call x job r a y := by
  cases h with
  | overflowed => exact .silent rfl rfl (.overflowed none)
  | reused token fresh => exact .silent rfl rfl (.found fresh)
  | queued => exact .silent rfl rfl .waits
  | entered _ _ renewed => exact renewed.inquires rfl
  | waited => exact .silent rfl rfl .waits
  | admitted _ renewed => exact renewed.inquires rfl
  | heard heard => exact .hears heard.contacts fun asked outcome => heard.finding rfl outcome

lemma turns_close (phase : Phase) : Line.pick Event.isTurn (closeLines phase) = [] :=
  pick_close (fun _ => rfl) phase

lemma turns_settled (r : Progress IdentityToken) : Line.pick Event.isTurn (settledLines r) = [] := by
  rcases r with _ | (_ | _) | _ <;> rfl

lemma turns_search_polled (r : Progress IdentityToken) :
    Line.pick Event.isTurn (searchLines [.polled call] r) = [] := by
  rw [searchLines, Line.pick_append]
  exact turns_settled r

lemma turns_search_asked (request : IdentityRequest) (r : Progress IdentityToken) :
    Line.pick Event.isTurn (searchLines [.asked call request, .polled call] r) = [.asked request] := by
  rw [searchLines, Line.pick_append]
  exact congrArg ([.asked request] ++ ·) (turns_settled r)

variable (p)

def reportTurns (host : String) : Except Cause (Option Secret) → List Event
  | .ok (some _) => [.reported p.sink host]
  | _ => []

lemma turns_end (host : String) (token : IdentityToken) (now : Instant)
    (outcome : Except Cause (Option Secret)) :
    Line.pick Event.isTurn (p.endLines host (.done (loginEnding host token now outcome))) =
      p.reportTurns host outcome := by
  rcases outcome with cause | _ | secret
  · rfl
  · rfl
  · rw [loginEnding]
    cases Credential.earlierExpiry? token.expiresOn now <;> rfl

lemma turns_pollExchange (host : String) (next : Phase) :
    Line.pick Event.isTurn (p.pollExchangeLines host next) =
      Line.pick Event.isTurn (p.endLines host next) := by
  rw [pollExchangeLines, Line.pick_append, Line.pick_inside, turns_close, Line.pick_cons]
  simp [Event.isTurn]

lemma turns_exchange (host : String) (token : IdentityToken) (world : World) (next : Phase) :
    Line.pick Event.isTurn (p.exchangeLines host token world next) =
      Line.pick Event.isTurn (p.connectLines host token world) ++
        Line.pick Event.isTurn (p.endLines host next) := by
  rw [exchangeLines, Line.pick_append, Line.pick_append, Line.pick_inside]
  rfl

end Provider

end RegistryLogin
