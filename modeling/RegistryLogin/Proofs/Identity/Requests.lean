import RegistryLogin.Identity.Federated
import RegistryLogin.Proofs.Http.Redirects
import RegistryLogin.Proofs.Text.Splitting

/-! A token request either fails before anything is sent, or all goes by what the network has for it. -/

namespace RegistryLogin

open Text

namespace FederatedSource

variable {source : FederatedSource} {request : IdentityRequest} {around : Surroundings}
variable {put put' : Request} {error : IdentityError}

/-- The request gets as far as being sent, and this is what is put to the network. -/
def Puts (source : FederatedSource) (request : IdentityRequest) (around : Surroundings)
    (put : Request) : Prop :=
  ∃ assertion endpoint, source.assertion around.files = .ok assertion ∧
    source.endpoint request.tenantId = .ok endpoint ∧ Target.check endpoint.chars = .ok () ∧
    put = source.post endpoint request assertion

/-- The request is sent, and this is the answer that the client comes back with. -/
def Answered (source : FederatedSource) (request : IdentityRequest) (around : Surroundings)
    (response : Response) : Prop :=
  ∃ put, source.Puts request around put ∧ (around.network.send source.http put).1 = some response

inductive Unsent (source : FederatedSource) (request : IdentityRequest) (around : Surroundings) :
    IdentityError → Prop
  | unread {error : FileError} (read : around.files.readText source.tokenFile = .error error) :
    Unsent source request around (.tokenFile source.tokenFile error)
  | blank {text : List Char} (read : around.files.readText source.tokenFile = .ok text)
    (blank : ∀ c ∈ text, isBlank c = true) :
    Unsent source request around (.emptyTokenFile source.tokenFile)
  | lost {assertion : String} {error : Url.Error} (read : source.assertion around.files = .ok assertion)
    (lost : source.endpoint request.tenantId = .error error) :
    Unsent source request around (.invalidEndpoint error)
  | unfit {assertion : String} {endpoint : Url} {flaw : Target.Flaw}
    (read : source.assertion around.files = .ok assertion)
    (found : source.endpoint request.tenantId = .ok endpoint)
    (flawed : Target.check endpoint.chars = .error flaw) :
    Unsent source request around (.unexpected ("failed to prepare request: " ++ flaw.message) none none)

lemma assertion_ok {text : List Char} (read : around.files.readText source.tokenFile = .ok text)
    (filled : ¬ ∀ c ∈ text, isBlank c = true) :
    source.assertion around.files = .ok (String.ofList (trim text)) := by
  rw [← trim_eq_nil_iff] at filled
  obtain ⟨c, cs, trimmed⟩ := List.exists_cons_of_ne_nil filled
  simp only [assertion, read, trimmed]

lemma assertion_error (h : source.assertion around.files = .error error) :
    Unsent source request around error := by
  cases read : around.files.readText source.tokenFile with
  | error fault =>
    rw [assertion, read] at h
    cases h
    exact .unread read
  | ok text =>
    by_cases blank : ∀ c ∈ text, isBlank c = true
    · simp only [assertion, read, trim_eq_nil_iff.mpr blank] at h
      cases h
      exact .blank read blank
    · cases (assertion_ok read blank).symm.trans h

lemma Puts.unique (h : source.Puts request around put) (h' : source.Puts request around put') :
    put = put' := by
  obtain ⟨assertion, endpoint, read, found, -, rfl⟩ := h
  obtain ⟨assertion', endpoint', read', found', -, rfl⟩ := h'
  obtain rfl := Except.ok.inj (read.symm.trans read')
  obtain rfl := Except.ok.inj (found.symm.trans found')
  rfl

lemma Unsent.not_puts (h : source.Unsent request around error) : ¬ source.Puts request around put := by
  rintro ⟨_, _, read', found', sound, -⟩
  cases h with
  | unread read => simp only [assertion, read, reduceCtorEq] at read'
  | blank read blank => simp only [assertion, read, trim_eq_nil_iff.mpr blank, reduceCtorEq] at read'
  | lost _ lost => cases lost.symm.trans found'
  | unfit _ found flawed =>
    obtain rfl := Except.ok.inj (found.symm.trans found')
    cases flawed.symm.trans sound

theorem request_unsent (h : source.Unsent request around error) :
    source.request request around = (.error error, around.network) := by
  cases h with
  | unread read => simp only [FederatedSource.request, assertion, read]
  | blank read blank => simp only [FederatedSource.request, assertion, read, trim_eq_nil_iff.mpr blank]
  | lost read lost => simp only [FederatedSource.request, read, lost]
  | unfit read found flawed => simp only [FederatedSource.request, read, found, flawed]

theorem request_puts (h : source.Puts request around put) : source.request request around =
    (around.network.send source.http put).map (conclude around.present) id := by
  obtain ⟨assertion, endpoint, read, found, sound, rfl⟩ := h
  simp only [FederatedSource.request, read, found, sound]
  rfl

lemma Answered.request_eq {response : Response} (h : source.Answered request around response) :
    (source.request request around).1 = conclude around.present (some response) := by
  obtain ⟨put, puts, answered⟩ := h
  rw [request_puts puts, Prod.map_fst, answered]

theorem puts_or_unsent (source : FederatedSource) (request : IdentityRequest) (around : Surroundings) :
    (∃ put, source.Puts request around put) ∨ ∃ error, source.Unsent request around error := by
  cases read : source.assertion around.files with
  | error error => exact .inr ⟨error, assertion_error read⟩
  | ok assertion =>
    cases found : source.endpoint request.tenantId with
    | error error => exact .inr ⟨_, .lost read found⟩
    | ok endpoint =>
      cases sound : Target.check endpoint.chars with
      | error flaw => exact .inr ⟨_, .unfit read found sound⟩
      | ok _ => exact .inl ⟨_, assertion, endpoint, read, found, sound, rfl⟩

theorem request_trail (source : FederatedSource) (request : IdentityRequest) (around : Surroundings) :
    ∃ sent, (source.request request around).2.seen = around.network.seen ++ sent ∧
      (sent = [] ∨ ∃ put, source.Puts request around put ∧
        around.network.Trail put source.http.redirects.most sent) := by
  rcases source.puts_or_unsent request around with ⟨put, puts⟩ | ⟨error, unsent⟩
  · obtain ⟨sent, seen, trail⟩ := around.network.send_trail source.http put
    exact ⟨sent, by rw [request_puts puts]; exact seen, .inr ⟨put, puts, trail⟩⟩
  · exact ⟨[], by rw [request_unsent unsent, List.append_nil], .inl rfl⟩

end FederatedSource

end RegistryLogin
