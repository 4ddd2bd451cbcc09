import RegistryLogin.Proofs.Identity.Endpoint
import RegistryLogin.Proofs.Refresh.Overflows
import RegistryLogin.Provider.Production

/-! Lifetimes that a token endpoint states, and what becomes of a request for a token. -/

namespace RegistryLogin

open Json

structure Response.Grants (response : Response) (secret : String) (seconds : UInt64) : Prop where
  status : response.status = 200
  type : (Header.first? "content-type" response.headers).filter (!TokenResponse.isJson ·) = none
  body : ∃ body, response.body = some body ∧ body.isEmpty = false ∧
    readFirst Grant.read body = .ok ⟨secret, some seconds.toNat⟩

lemma TokenResponse.issue_eq (secret : String) (n : Nat) :
    issue ⟨secret, some n⟩ =
      if n = 0 then .error .expiresInNotPositive
      else if h : n < 9223372036854775808 then
        .ok (.lasting ⟨secret⟩ ⟨n * 1000000000, by omega, by omega⟩)
      else .error .expiresInOutOfRange := by
  by_cases fits : n < 9223372036854775808
  · have small : (-9223372036854775808 : Int) ≤ n ∧ (n : Int) ≤ 9223372036854775807 := by omega
    have ticks : (-9223372036854775808999999999 : Int) ≤ n * 1000000000 ∧
        (n : Int) * 1000000000 ≤ 9223372036854775807999999999 := by omega
    simp only [issue, Duration.ofSeconds?, if_pos small, Duration.ofTicks?, dif_pos ticks, dif_pos fits,
      Duration.isPositive, decide_eq_true_eq]
    by_cases zero : n = 0
    · simp [zero]
    · rw [if_pos (by omega), if_neg zero]
  · have large : ¬ ((-9223372036854775808 : Int) ≤ n ∧ (n : Int) ≤ 9223372036854775807) := by omega
    have positive : n ≠ 0 := by omega
    simp only [issue, Duration.ofSeconds?, if_neg large, dif_neg fits, if_neg positive]

namespace FederatedSource

lemma conclude_grants {response : Response} {secret : String} {seconds : UInt64}
    (h : response.Grants secret seconds) (present : Instant) :
    conclude present (some response) = TokenResponse.issue ⟨secret, some seconds.toNat⟩ := by
  obtain ⟨status, type, body, hb, full, read⟩ := h
  simp only [conclude, MetadataSlot.deliver, hb, Option.map_some, TokenResponse.judge, status, if_true,
    TokenResponse.grant, type, full, read]
  rfl

def Granted (source : FederatedSource) (request : IdentityRequest) (around : Surroundings)
    (secret : String) (seconds : UInt64) : Prop :=
  ∃ response, source.Answered request around response ∧ response.Grants secret seconds

def token? (source : FederatedSource) (request : IdentityRequest) (around : Surroundings)
    (now : Instant) : Option (Except IdentityError IdentityToken) :=
  match (source.request request around).1 with
  | .error error => some (.error error)
  | .ok issued => (issued.token? now).map .ok

def expiry? (now : Instant) (seconds : UInt64) : Option Instant :=
  Instant.ofTicks? (now.ticks + seconds.toNat * 1000000000) now.offset

def promised (now : Instant) (secret : String) (seconds : UInt64) :
    Except IdentityError IdentityToken :=
  if seconds.toNat = 0 then .error .expiresInNotPositive
  else match expiry? now seconds with
    | some expiresOn => .ok ⟨⟨secret⟩, expiresOn⟩
    | none => .error .expiresInOutOfRange

lemma expiry?_large (now : Instant) {seconds : UInt64} (h : ¬ seconds.toNat < 9223372036854775808) :
    expiry? now seconds = none := by
  have upper := now.upper
  have lower := now.lower
  have east := now.offset.upper
  have late : ¬ (-377705116800000000000 ≤
      now.ticks + seconds.toNat * 1000000000 + now.offset.seconds * 1000000000 ∧
      now.ticks + seconds.toNat * 1000000000 + now.offset.seconds * 1000000000 <
        253402300800000000000) := by omega
  rw [expiry?, Instant.ofTicks?, dif_neg late]

variable {source : FederatedSource} {request : IdentityRequest} {around : Surroundings}
variable {secret : String} {seconds : UInt64}

lemma Granted.request_eq (h : source.Granted request around secret seconds) :
    (source.request request around).1 = TokenResponse.issue ⟨secret, some seconds.toNat⟩ := by
  obtain ⟨response, answered, grants⟩ := h
  rw [answered.request_eq, conclude_grants grants]

def Fits (now : Instant) (seconds : UInt64) : Prop :=
  seconds.toNat = 0 ∨ 9223372036854775808 ≤ seconds.toNat ∨ (expiry? now seconds).isSome

lemma Granted.token?_eq (h : source.Granted request around secret seconds) (now : Instant) :
    source.token? request around now =
      if seconds.toNat = 0 then some (.error .expiresInNotPositive)
      else if seconds.toNat < 9223372036854775808 then
        (expiry? now seconds).map fun expiresOn => .ok ⟨⟨secret⟩, expiresOn⟩
      else some (.error .expiresInOutOfRange) := by
  rw [token?, h.request_eq, TokenResponse.issue_eq]
  by_cases zero : seconds.toNat = 0
  · simp only [zero, if_true]
  · by_cases fits : seconds.toNat < 9223372036854775808
    · simp only [zero, fits, dif_pos, if_true, if_false, Issued.token?, Option.map_map]
      rfl
    · simp only [zero, fits, if_false, dif_neg, not_false_eq_true]

lemma Granted.token?_fits (h : source.Granted request around secret seconds) {now : Instant}
    (fits : Fits now seconds) :
    source.token? request around now = some (promised now secret seconds) := by
  rw [h.token?_eq, promised]
  by_cases zero : seconds.toNat = 0
  · simp only [zero, if_true]
  · by_cases small : seconds.toNat < 9223372036854775808
    · obtain ⟨t, ht⟩ : ∃ t, expiry? now seconds = some t := by
        rcases fits with none | large | some
        · exact absurd none zero
        · omega
        · exact Option.isSome_iff_exists.mp some
      simp only [zero, small, ht, if_true, if_false, Option.map_some]
    · simp only [zero, small, expiry?_large now small, if_false]

lemma Granted.token?_misfits (h : source.Granted request around secret seconds) {now : Instant}
    (misfits : ¬ Fits now seconds) : source.token? request around now = none := by
  simp only [Fits, not_or, Bool.not_eq_true, Option.isSome_eq_false_iff, Option.isNone_iff_eq_none]
    at misfits
  obtain ⟨zero, small, none⟩ := misfits
  rw [h.token?_eq, if_neg zero, if_pos (by omega), none]
  rfl

lemma fate_answer (source : FederatedSource) (request : IdentityRequest) (around : Surroundings)
    (now : Instant) :
    Delayed.fate now ⟨0, (source.answer request around).1.outcome⟩ =
      match source.token? request around now with
      | none => .panicked
      | some (.error error) => .failed (.identity error)
      | some (.ok token) => .returned token := by
  simp only [answer, token?]
  cases (source.request request around).1 with
  | error error => rfl
  | ok issued => cases ht : issued.token? now <;> simp [Except.mapError, Delayed.fate, ht]

end FederatedSource

/-- The provider has its tokens from this source. How long an answer takes, and what else the
collaborators do to their world, is left open. -/
def Provider.Consults {World Client : Type} (p : Provider World Client) (source : FederatedSource)
    (view : World → Surroundings) : Prop :=
  ∀ request world, (p.collaborators.requestIdentity request world).1.outcome =
    (source.answer request (view world)).1.outcome

namespace FederatedSource

variable {source : FederatedSource} {request : IdentityRequest} {around : Surroundings}
variable {secret : String} {seconds : UInt64}

/-- A request has the promised result if the stated lifetime is an error or leads to an instant. If
neither, it has none, and a call that has such an answer, whenever that comes, then ends without one,
too. -/
theorem lifetime_fits (h : source.Granted request around secret seconds) (now : Instant) :
    (Fits now seconds → source.token? request around now = some (promised now secret seconds)) ∧
      (¬ Fits now seconds → source.token? request around now = none) ∧
      ∀ (World Client : Type) (p : Provider World Client) (view : World → Surroundings)
        (s : Session World) (m : Move) (asked : World),
        p.Consults source view → p.identityRequest = request → view asked = around →
        s.shared.clock = now → s.Learns p m (p.answerIn asked).outcome →
        ((s.move p m).phaseOf (s.callOf m) = some (.done (.overflowed .identity)) ↔
          ¬ Fits now seconds) := by
  refine ⟨h.token?_fits, h.token?_misfits, ?_⟩
  intro World Client p view s m asked consults hp hw hn learns
  have answered : (p.answerIn asked).outcome = (source.answer request around).1.outcome := by
    rw [Provider.answerIn, consults, hp, hw]
  rw [Session.learns_overflowed_iff learns, answered, hn, fate_answer]
  by_cases fits : Fits now seconds
  · rw [h.token?_fits fits]
    cases promised now secret seconds <;> simp [fits]
  · simp [h.token?_misfits fits, fits]

deriving instance DecidableEq for Grant

def nearby : FederatedSource :=
  .new "token" ⟨"https".toList, some ⟨[], [], .ipv6 [0, 0, 0, 0, 0, 0, 0, 1], some 8080⟩,
    .segments [[]], none, none⟩

def epoch : Instant := ⟨0, .utc, by decide, by decide⟩

def answering (answers : List Answer) (delays : List Nat) : Surroundings :=
  ⟨.ofWorking [("token", .content [0x61])], ⟨true, answers, []⟩, epoch, delays⟩

def granting (headers : List Header) (body : String) : Answer :=
  .reply 200 headers (Text.Utf8.ofString body) none

def asking : IdentityRequest := ⟨"tenant-1", "client", IdentityRequest.registryResource⟩

def nearbyEndpoint : Url :=
  { nearby.authority with
    path := .segments ["tenant-1".toList, "oauth2".toList, "v2.0".toList, "token".toList] }

lemma puts_nearby (answers : List Answer) (delays : List Nat) :
    nearby.Puts asking (answering answers delays) (nearby.post nearbyEndpoint asking "a") := by
  have file : nearby.assertion (.ofWorking [("token", .content [0x61])]) = .ok "a" :=
    ok_of_toOption (by decide +kernel)
  have url : nearby.endpoint asking.tenantId = .ok nearbyEndpoint := ok_of_toOption (by decide +kernel)
  have target : Target.check nearbyEndpoint.chars = .ok () := ok_of_toOption (by decide +kernel)
  exact ⟨"a", nearbyEndpoint, file, url, target, rfl⟩

lemma answered_nearby (headers : List Header) (body : String) (delays : List Nat) :
    nearby.Answered asking (answering [granting headers body] delays)
      ⟨200, headers.map Answer.trimmed, some (Text.Utf8.ofString body)⟩ := by
  let network := (answering [granting headers body] delays).network
  have sent : network.send nearby.http (nearby.post nearbyEndpoint asking "a") = _ :=
    Network.send_answer rfl rfl rfl rfl (.inr rfl)
  exact ⟨_, puts_nearby _ delays, congrArg Prod.fst sent⟩

def grantText (seconds : String) : String :=
  "\x7b\"access_token\":\"t\",\"token_type\":\"bearer\",\"expires_in\":" ++ seconds ++ "\x7d"

lemma granted_nearby {body : String} (delays : List Nat)
    (nonempty : (Text.Utf8.ofString body).isEmpty = false)
    (read : readFirst Grant.read (Text.Utf8.ofString body) = .ok ⟨secret, some seconds.toNat⟩) :
    nearby.Granted asking (answering [granting [] body] delays) secret seconds :=
  ⟨_, answered_nearby [] body delays, rfl, rfl, _, rfl, nonempty, read⟩

def neighbour : Provider Surroundings RegistryClient :=
  .ofSettings ⟨"tenant-1", "client", nearby.tokenFile, nearby.authority⟩

theorem lifetime_fits_hour :
    let around := answering [granting [] (grantText "3600")] [1]
    let expiresOn : Instant := ⟨3600000000000, .utc, by decide, by decide⟩
    nearby.Granted asking around "t" 3600 ∧
      nearby.token? asking around epoch = some (.ok ⟨⟨"t"⟩, expiresOn⟩) ∧
      let s := (Session.ofSeed .empty epoch around).move neighbour (.start .prime false)
      s.Learns neighbour (.poll 0 false) (neighbour.answerIn around).outcome ∧
        ((s.move neighbour (.poll 0 false)).phaseOf 0 = some (.done (.overflowed .identity)) ↔
          ¬ Fits epoch 3600) := by
  intro around expiresOn
  have granted : nearby.Granted asking around "t" 3600 :=
    granted_nearby [1] (by decide +kernel) (ok_of_toOption (by decide +kernel))
  have fits : Fits epoch 3600 := .inr (.inr rfl)
  refine ⟨granted, (lifetime_fits granted epoch).1 fits, ?_⟩
  intro s
  have learns : s.Learns neighbour (.poll 0 false) (neighbour.answerIn around).outcome :=
    ⟨by decide +kernel, rfl⟩
  exact ⟨learns, (lifetime_fits granted epoch).2.2 _ _ neighbour id s _ around (fun _ _ => rfl) rfl rfl
    rfl learns⟩

theorem lifetime_fits_millennia : ¬ ∀ (source : FederatedSource) (request : IdentityRequest)
    (around : Surroundings) (now : Instant) (secret : String) (seconds : UInt64),
    source.Granted request around secret seconds →
    source.token? request around now = some (promised now secret seconds) := by
  intro h
  have granted : nearby.Granted asking (answering [granting [] (grantText "300000000000")] []) "t"
      300000000000 :=
    granted_nearby [] (by decide +kernel) (ok_of_toOption (by decide +kernel))
  have beyond : expiry? epoch 300000000000 = none := by decide
  have misfits : ¬ Fits epoch 300000000000 := by
    simp only [Fits, beyond]
    decide
  have promised := h _ _ _ epoch _ _ granted
  rw [granted.token?_misfits misfits] at promised
  cases promised

end FederatedSource

end RegistryLogin
