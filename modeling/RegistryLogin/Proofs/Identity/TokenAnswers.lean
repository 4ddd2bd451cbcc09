import RegistryLogin.Proofs.Identity.Grants
import RegistryLogin.Proofs.Identity.Lifetimes
import RegistryLogin.Proofs.Time.Parts

namespace RegistryLogin

open Json Text

namespace TokenResponse

def IsTyped (headers : List Header) : Prop :=
  ∀ value, Header.first? "content-type" headers = some value →
    ∃ text, Header.text? value = some text ∧ jsonType <+: text.map Char.toLower

lemma isTyped_iff {headers : List Header} :
    (Header.first? "content-type" headers).filter (!isJson ·) = none ↔ IsTyped headers := by
  have typed (value : Bytes) : isJson value = true ↔
      ∃ text, Header.text? value = some text ∧ jsonType <+: text.map Char.toLower := by
    unfold isJson
    cases Header.text? value with
    | none => simp
    | some text =>
      simp only [beq_iff_eq, List.prefix_iff_eq_take, Option.some.injEq, exists_eq_left']
      exact eq_comm
  unfold IsTyped
  cases Header.first? "content-type" headers with
  | none => simp
  | some value =>
    cases hv : isJson value with
    | true => simpa [Option.filter, hv] using (typed value).mp hv
    | false =>
      have untyped := mt (typed value).mpr (by simp [hv])
      simpa [Option.filter, hv] using untyped

def Reports (status : Nat) (retryAfter : Option Duration) : IdentityError → Prop
  | .rejected _ _ code => code = some status ∧ status ≠ 200
  | .parse _ code => code = some status
  | .unexpected _ code delay => code = some status ∧ delay = retryAfter
  | .missingExpiresIn | .expiresInOutOfRange | .expiresInNotPositive => status = 200
  | .tokenFile _ _ | .emptyTokenFile _ | .invalidEndpoint _ | .transport => False

def settled? (now : Instant) : Except IdentityError Issued → Option (Except IdentityError IdentityToken)
  | .error error => some (.error error)
  | .ok issued => (issued.token? now).map .ok

variable {now : Instant} {token : IdentityToken}

lemma issue_nonpositive (secret : String) {seconds : Int} (h : seconds < 1) :
    ∃ error, issue ⟨secret, some seconds⟩ = .error error := by
  cases hd : Duration.ofSeconds? seconds with
  | none => exact ⟨.expiresInOutOfRange, by simp only [issue, hd]⟩
  | some lifetime =>
    have spent : ¬ lifetime.isPositive = true := by
      simp only [Duration.ofSeconds?, Duration.ofTicks?] at hd
      split_ifs at hd
      obtain rfl := Option.some.inj hd
      simp only [Duration.isPositive, decide_eq_true_eq]
      omega
    exact ⟨.expiresInNotPositive, by simp only [issue, hd, if_neg spent]⟩

lemma settled?_lasting {secret : Secret} {lifetime : Duration} :
    settled? now (.ok (.lasting secret lifetime)) = some (.ok token) ↔ token.accessToken = secret ∧
      token.expiresOn.ticks = now.ticks + lifetime.ticks ∧ token.expiresOn.offset = now.offset := by
  obtain ⟨secret', expiresOn⟩ := token
  rw [← Instant.ofTicks?_eq_some_iff]
  simp only [settled?, Issued.token?, Instant.add?, Option.map_map, Option.map_eq_some_iff,
    Function.comp_apply, Except.ok.injEq, IdentityToken.mk.injEq]
  constructor
  · rintro ⟨_, sum, rfl, rfl⟩
    exact ⟨rfl, sum⟩
  · rintro ⟨rfl, sum⟩
    exact ⟨_, sum, rfl, rfl⟩

lemma settled?_issue {grant : Grant} : settled? now (issue grant) = some (.ok token) ↔
    ∃ seconds : Nat, grant = ⟨token.accessToken.text, some (seconds : Int)⟩ ∧ 1 ≤ seconds ∧
      seconds ≤ 9223372036854775807 ∧ token.expiresOn.ticks = now.ticks + seconds * 1000000000 ∧
      token.expiresOn.offset = now.offset := by
  obtain ⟨secret, _ | seconds⟩ := grant
  · simp [issue, settled?]
  by_cases positive : 1 ≤ seconds
  · obtain ⟨n, rfl⟩ := Int.eq_ofNat_of_zero_le (Int.le_trans (by decide) positive)
    rw [issue_eq, if_neg (by omega)]
    by_cases small : n < 9223372036854775808
    · rw [dif_pos small, settled?_lasting]
      constructor
      · rintro ⟨same, sum, offset⟩
        exact ⟨n, by rw [same], by omega, by omega, sum, offset⟩
      · rintro ⟨m, same, -, -, sum, offset⟩
        obtain ⟨rfl, stated⟩ := Grant.mk.inj same
        obtain rfl : n = m := Int.natCast_inj.mp (Option.some.inj stated)
        exact ⟨rfl, sum, offset⟩
    · rw [dif_neg small]
      constructor
      · rintro ⟨⟩
      · rintro ⟨m, same, -, fits, -⟩
        obtain rfl : n = m := Int.natCast_inj.mp (Option.some.inj (Grant.mk.inj same).2)
        omega
  · obtain ⟨error, failed⟩ := issue_nonpositive secret (Int.not_le.mp positive)
    rw [failed]
    constructor
    · rintro ⟨⟩
    · rintro ⟨m, same, least, -⟩
      obtain rfl : seconds = m := Option.some.inj (Grant.mk.inj same).2
      omega

lemma readFirst_grant {body : Bytes} {secret : String} {seconds : Nat} (positive : 1 ≤ seconds)
    (small : seconds ≤ Numeral.largest) :
    readFirst Grant.read body = .ok ⟨secret, some (seconds : Int)⟩ ↔
      ∃ text rest node, body = text ++ rest ∧ Spells text node ∧
        Grant.Promises (Node.Readable 126) secret seconds node := by
  have nested (node : Node) (h : Grant.Promises (Node.Readable 126) secret seconds node) :
      node.isNested = true ∧ node.Whole :=
    ⟨h.isNested, h.whole fun value readable => readable.whole⟩
  rw [readFirst, Grant.read_eq_ok_iff positive]
  constructor
  · rintro ⟨promises, -⟩
    exact (firstValue_iff nested body).mp promises
  · intro promises
    exact ⟨(firstValue_iff nested body).mpr promises, small⟩

lemma settled?_issue_error {grant : Grant} {error : IdentityError}
    (h : settled? now (issue grant) = some (.error error)) :
    error = .missingExpiresIn ∨ error = .expiresInOutOfRange ∨ error = .expiresInNotPositive := by
  unfold issue at h
  split at h
  · obtain rfl := Except.error.inj (Option.some.inj h)
    exact .inl rfl
  · split at h
    · obtain rfl := Except.error.inj (Option.some.inj h)
      exact .inr (.inl rfl)
    · split at h
      · obtain ⟨_, -, ⟨⟩⟩ := Option.map_eq_some_iff.mp h
      · obtain rfl := Except.error.inj (Option.some.inj h)
        exact .inr (.inr rfl)

def BeginsTyped (headers : List Header) : Prop :=
  ∀ value, Header.first? "content-type" headers = some value →
    jsonType.map (UInt8.ofNat ·.toNat) <+: value.map Header.lower

/-- The answer is typed like this and promises this token, if what its body holds besides can be passed
over. -/
def Yields (typed : List Header → Prop) (passable : Node → Prop) (now : Instant) (status : Nat)
    (headers : List Header) (body : Bytes) (token : IdentityToken) : Prop :=
  status = 200 ∧ typed headers ∧
    ∃ text rest node seconds, body = text ++ rest ∧ Spells text node ∧
      Grant.Promises passable token.accessToken.text seconds node ∧
      1 ≤ seconds ∧ seconds ≤ 9223372036854775807 ∧
      token.expiresOn.ticks = now.ticks + seconds * 1000000000 ∧ token.expiresOn.offset = now.offset

variable {present : Instant} {status : Nat} {headers : List Header} {body : Bytes}
variable {typed : List Header → Prop} {passable : Node → Prop}

lemma Yields.unexpired (h : Yields typed passable now status headers body token) :
    now < token.expiresOn := by
  obtain ⟨-, -, _, _, _, seconds, -, -, -, least, -, sum, -⟩ := h
  change now.ticks < token.expiresOn.ticks
  omega

lemma yields_iff : Yields IsTyped (Node.Readable 126) now status headers body token ↔
    status = 200 ∧ IsTyped headers ∧
      ∃ grant, readFirst Grant.read body = .ok grant ∧
        settled? now (issue grant) = some (.ok token) := by
  constructor
  · rintro ⟨success, typed, text, rest, node, seconds, split, spells, promises, least, most, stated⟩
    have small : seconds ≤ Numeral.largest := Nat.le_trans most (by decide)
    exact ⟨success, typed, _,
      (readFirst_grant least small).mpr ⟨text, rest, node, split, spells, promises⟩,
      settled?_issue.mpr ⟨seconds, rfl, least, most, stated⟩⟩
  · rintro ⟨success, typed, grant, read, settled⟩
    obtain ⟨seconds, rfl, least, most, stated⟩ := settled?_issue.mp settled
    have small : seconds ≤ Numeral.largest := Nat.le_trans most (by decide)
    obtain ⟨text, rest, node, split, spells, promises⟩ := (readFirst_grant least small).mp read
    exact ⟨success, typed, text, rest, node, seconds, split, spells, promises, least, most, stated⟩

structure Judged (present now : Instant) (status : Nat) (headers : List Header) (body : Bytes)
    (result : Option (Except IdentityError IdentityToken)) : Prop where
  granted : ∀ token, result = some (.ok token) ↔
    Yields IsTyped (Node.Readable 126) now status headers body token
  reported : ∀ error, result = some (.error error) →
    Reports status (RetryAfter.ofHeaders? present headers) error

lemma Yields.filled (h : Yields typed passable now status headers body token) :
    body.isEmpty = false := by
  obtain ⟨-, -, text, rest, node, -, rfl, spells, -⟩ := h
  rcases text with _ | ⟨b, text⟩
  · have nothing : tokens [] = [.finish] := by rw [tokens]
    have length := congrArg List.length (nothing.symm.trans spells.written)
    have written := List.length_pos_iff.mpr (Node.write_ne_nil spells.whole)
    simp only [List.length_append, List.length_singleton] at length
    omega
  · rfl

lemma judged_error {error : IdentityError}
    (reports : Reports status (RetryAfter.ofHeaders? present headers) error)
    (none : ∀ token, ¬ Yields IsTyped (Node.Readable 126) now status headers body token) :
    Judged present now status headers body (some (.error error)) where
  granted token := by simpa using none token
  reported _ h := by
    obtain rfl := Except.error.inj (Option.some.inj h)
    exact reports

lemma judged_refusal (refused : status ≠ 200) : Judged present now status headers body
    (some (.error (rejection (.unexpected · (some status) (RetryAfter.ofHeaders? present headers))
      (some status) body))) := by
  have none (token : IdentityToken) :
      ¬ Yields IsTyped (Node.Readable 126) now status headers body token := fun h => refused h.1
  unfold rejection
  split
  · exact judged_error ⟨rfl, rfl⟩ none
  · split
    · exact judged_error ⟨rfl, refused⟩ none
    · exact judged_error rfl none

lemma judged_success : Judged present now 200 headers body
    (settled? now ((grant (.unexpected · (some 200) (RetryAfter.ofHeaders? present headers))
      (some 200) ⟨200, headers, body⟩).bind issue)) := by
  -- the type is checked before the body, and an empty body before it is read
  unfold grant
  split
  · rename_i contentType other
    refine judged_error ⟨rfl, rfl⟩ fun token h => ?_
    cases other.symm.trans (isTyped_iff.mpr h.2.1)
  · rename_i typed
    split
    · rename_i empty
      exact judged_error ⟨rfl, rfl⟩ fun token h => by simp [h.filled] at empty
    · cases read : readFirst Grant.read body with
      | error fault =>
        refine judged_error rfl fun token h => ?_
        obtain ⟨-, -, grant, found, -⟩ := yields_iff.mp h
        cases read.symm.trans found
      | ok grant =>
        refine ⟨fun token => ?_, fun error h => ?_⟩
        · rw [yields_iff]
          constructor
          · intro settled
            exact ⟨rfl, isTyped_iff.mp typed, grant, read, settled⟩
          · rintro ⟨-, -, other, found, settled⟩
            obtain rfl := Except.ok.inj (read.symm.trans found)
            exact settled
        · obtain rfl | rfl | rfl := settled?_issue_error h <;> rfl

theorem judged_conclude (present now : Instant) (status : Nat) (headers : List Header) (body : Bytes) :
    Judged present now status headers body
      (settled? now (FederatedSource.conclude present (some ⟨status, headers, some body⟩))) := by
  change Judged _ _ _ _ _ (settled? now ((judge (some (.ofResponse present status headers))
    ⟨status, headers, body⟩).bind issue))
  by_cases success : status = 200
  · subst success
    exact judged_success
  · rw [judge, if_neg success]
    exact judged_refusal success

end TokenResponse

namespace FederatedSource

open TokenResponse

variable {source : FederatedSource} {request : IdentityRequest} {around : Surroundings}

lemma Answered.token?_eq {response : Response} (h : source.Answered request around response)
    (now : Instant) :
    source.token? request around now = settled? now (conclude around.present (some response)) := by
  rw [token?, h.request_eq]
  rfl

lemma answered_of_ok {issued : Issued} (h : (source.request request around).1 = .ok issued) :
    ∃ status headers body, source.Answered request around ⟨status, headers, some body⟩ := by
  rcases source.puts_or_unsent request around with ⟨put, puts⟩ | ⟨error, unsent⟩
  · rw [request_puts puts, Prod.map_fst] at h
    cases sent : (around.network.send source.http put).1 with
    | none =>
      rw [sent] at h
      cases h
    | some response =>
      obtain ⟨status, headers, _ | body⟩ := response
      · rw [sent] at h
        cases h
      · exact ⟨status, headers, body, put, puts, sent⟩
  · rw [request_unsent unsent] at h
    cases h

theorem token?_eq_ok_iff {now : Instant} {token : IdentityToken} :
    source.token? request around now = some (.ok token) ↔ ∃ status headers body,
      source.Answered request around ⟨status, headers, some body⟩ ∧
        Yields IsTyped (Node.Readable 126) now status headers body token := by
  constructor
  · intro h
    cases result : (source.request request around).1 with
    | error error =>
      rw [token?, result] at h
      cases h
    | ok issued =>
      obtain ⟨status, headers, body, answered⟩ := answered_of_ok result
      rw [answered.token?_eq] at h
      exact ⟨status, headers, body, answered, ((judged_conclude _ _ _ _ _).granted _).mp h⟩
  · rintro ⟨status, headers, body, answered, yields⟩
    rw [answered.token?_eq]
    exact ((judged_conclude _ _ _ _ _).granted _).mpr yields

/-- A request fails for the token file, the endpoint or what cannot be sent, in this order and with
nothing sent; else it comes to what its client brings back. A client that follows redirects sends one
request and those that answers lead to, and one that goes nowhere from an answer sends just one. -/
theorem request_outcome (source : FederatedSource) (request : IdentityRequest)
    (around : Surroundings) (now : Instant) :
    (∀ error, around.files.readText source.tokenFile = .error error →
      source.request request around = (.error (.tokenFile source.tokenFile error), around.network)) ∧
    (∀ text, around.files.readText source.tokenFile = .ok text → (∀ c ∈ text, isBlank c = true) →
      source.request request around = (.error (.emptyTokenFile source.tokenFile), around.network)) ∧
    (∀ text error, around.files.readText source.tokenFile = .ok text →
      (¬ ∀ c ∈ text, isBlank c = true) → source.endpoint request.tenantId = .error error →
      source.request request around = (.error (.invalidEndpoint error), around.network)) ∧
    (∀ text endpoint flaw, around.files.readText source.tokenFile = .ok text →
      (¬ ∀ c ∈ text, isBlank c = true) → source.endpoint request.tenantId = .ok endpoint →
      Target.check endpoint.chars = .error flaw →
      source.request request around =
        (.error (.unexpected ("failed to prepare request: " ++ flaw.message) none none), around.network)) ∧
    (∀ put, source.Puts request around put →
      source.request request around =
          (around.network.send source.http put).map (conclude around.present) id ∧
        ∀ answer rest response, around.network.reachable = true → Url.isWeb put.url.scheme = true →
          around.network.answers = answer :: rest → answer.response? = some response →
          source.http.Keeps put response →
          source.request request around = (conclude around.present (some response),
            { around.network with answers := rest, seen := around.network.seen ++ [put] })) ∧
    (∃ sent, (source.request request around).2.seen = around.network.seen ++ sent ∧
      (sent = [] ∨ ∃ put, source.Puts request around put ∧
        around.network.Trail put source.http.redirects.most sent)) ∧
    (∀ response, source.Answered request around response →
      source.token? request around now = settled? now (conclude around.present (some response))) ∧
    (∀ token, source.token? request around now = some (.ok token) ↔
      ∃ status headers body, source.Answered request around ⟨status, headers, some body⟩ ∧
        Yields IsTyped (Node.Readable 126) now status headers body token) ∧
    ∀ status headers body,
      Judged around.present now status headers body
        (settled? now (conclude around.present (some ⟨status, headers, some body⟩))) ∧
      ∀ token, Yields IsTyped (Node.Readable 126) now status headers body token →
        now < token.expiresOn := by
  refine ⟨?_, ?_, ?_, ?_, ?_, source.request_trail request around, ?_, fun _ => token?_eq_ok_iff, ?_⟩
  · intro error unread
    exact request_unsent (.unread unread)
  · intro text read blank
    exact request_unsent (.blank read blank)
  · intro text error read filled lost
    exact request_unsent (.lost (assertion_ok read filled) lost)
  · intro text endpoint flaw read filled found flawed
    exact request_unsent (.unfit (assertion_ok read filled) found flawed)
  · intro put puts
    refine ⟨request_puts puts, ?_⟩
    intro answer rest response reachable web answers told keeps
    rw [request_puts puts, Network.send_answer reachable web answers told keeps]
    rfl
  · intro response answered
    exact answered.token?_eq now
  · intro status headers body
    refine ⟨judged_conclude _ _ _ _ _, ?_⟩
    intro token yields
    exact yields.unexpired

def hourLater : IdentityToken := ⟨⟨"t"⟩, ⟨3600000000000, .utc, by decide, by decide⟩⟩

def promise (other : Option Node) : Node :=
  .object ([(some "access_token".toList, .string (some ['t'])),
    (some "token_type".toList, .string (some "bearer".toList)),
    (some "expires_in".toList, .number (some (.natural 3600)))] ++
      other.toList.map (some ['x'], ·)) .closed

lemma promises_promise {passable : Node → Prop} {other : Option Node}
    (passes : ∀ value ∈ other, passable value) :
    Grant.Promises passable "t" 3600 (promise other) := by
  let known : List Node.Member := [(some "access_token".toList, .string (some ['t'])),
    (some "token_type".toList, .string (some "bearer".toList)),
    (some "expires_in".toList, .number (some (.natural 3600)))]
  have only (name : String) (known : name ≠ "x") :
      valuesOf name (other.toList.map (some ['x'], ·)) = [] := by
    cases other with
    | none => rfl
    | some value => simp [valuesOf_one, show String.ofList ['x'] ≠ name from known.symm]
  have valued (name : String) (plain : name ≠ "x") :
      valuesOf name (known ++ other.toList.map (some ['x'], ·)) = valuesOf name known := by
    rw [valuesOf_append, only name plain, List.append_nil]
  have typed : valuesOf "token_type" (known ++ other.toList.map (some ['x'], ·)) =
      [.string (some "bearer".toList)] := valued _ (by decide)
  refine .object ?_ (valued _ (by decide)) typed (valued _ (by decide)) (.inl (valued _ (by decide)))
    (.inl (valued _ (by decide)))
  intro m hm
  rcases List.mem_append.mp hm with named | unnamed
  · simp only [List.mem_cons, List.not_mem_nil, or_false] at named
    rcases named with rfl | rfl | rfl <;> exact ⟨_, rfl, fun absent => absurd (by decide) absent⟩
  · obtain ⟨value, hv, rfl⟩ := List.mem_map.mp unnamed
    exact ⟨_, rfl, fun _ => passes value (by simpa using hv)⟩

lemma yields_promise {typed : List Header → Prop} {passable : Node → Prop} {headers : List Header}
    {body : String} (other : Option Node) (fits : typed headers)
    (passes : ∀ value ∈ other, passable value) (whole : ∀ value ∈ other, value.Whole)
    (written : tokens (Utf8.ofString body) = (promise other).write ++ [.finish]) :
    Yields typed passable epoch 200 headers (Utf8.ofString body) hourLater := by
  have spells : Spells (Utf8.ofString body) (promise other) :=
    ⟨(promises_promise whole).whole fun _ h => h, written⟩
  exact ⟨rfl, fits, Utf8.ofString body, [], promise other, 3600, by simp, spells,
    promises_promise passes, by decide, by decide, rfl, rfl⟩

theorem request_outcome_hour :
    let around := answering [granting [] (grantText "3600")] []
    let put := nearby.post nearbyEndpoint asking "a"
    nearby.Puts asking around put ∧
      nearby.token? asking around epoch = some (.ok hourLater) ∧ epoch < hourLater.expiresOn ∧
      (nearby.request asking around).2.seen = [put] := by
  intro around put
  have puts : nearby.Puts asking around put := puts_nearby _ _
  obtain ⟨-, -, -, -, sent, -, -, granted, judged⟩ := request_outcome nearby asking around epoch
  have yields : Yields IsTyped (Node.Readable 126) epoch 200 [] (Utf8.ofString (grantText "3600"))
      hourLater :=
    yields_promise none (by rintro _ ⟨⟩) (by simp) (by simp) (by decide +kernel)
  have once := (sent put puts).2 _ [] _ rfl rfl rfl rfl (.inr rfl)
  exact ⟨puts, (granted _).mpr ⟨_, _, _, answered_nearby [] _ [], yields⟩,
    (judged _ _ _).2 _ yields, by rw [once]; rfl⟩

lemma token?_ne_ok {headers : List Header} {body : String} {token : IdentityToken}
    (h : (conclude epoch (some ⟨200, headers.map Answer.trimmed,
      some (Utf8.ofString body)⟩)).toOption.isNone) :
    nearby.token? asking (answering [granting headers body] []) epoch ≠ some (.ok token) := by
  rw [(answered_nearby headers body []).token?_eq epoch,
    show (answering [granting headers body] []).present = epoch from rfl]
  cases hc : conclude epoch (some ⟨200, headers.map Answer.trimmed, some (Utf8.ofString body)⟩) with
  | error error => rintro ⟨⟩
  | ok issued =>
    rw [hc] at h
    cases h

def accented : Header :=
  ⟨Utf8.ofString "content-type", Utf8.ofString "application/json; charset=\u00e9"⟩

def halved : String := grantText "3600,\"x\":\"\\ud800\""

lemma beginsTyped_accented : BeginsTyped ([accented].map Answer.trimmed) := by
  intro value found
  have same : Header.first? "content-type" ([accented].map Answer.trimmed) = some accented.value := by
    decide +kernel
  obtain rfl := Option.some.inj (same.symm.trans found)
  decide +kernel

def elsewhere : Answer :=
  .reply 307 [⟨Utf8.ofString "location", Utf8.ofString "/elsewhere"⟩] [] none

lemma seen_elsewhere :
    (nearby.request asking (answering [elsewhere, granting [] (grantText "3600")] [])).2.seen.length =
      2 := by
  rw [request_puts (puts_nearby _ _)]
  decide +kernel

/-- A content type that is JSON's but no text, and a member that is well-formed but not readable, are
each enough for an error; and a client that follows redirects sends the assertion once more. -/
theorem request_outcome_strict :
    (¬ ∀ (source : FederatedSource) (request : IdentityRequest) (around : Surroundings) (now : Instant)
        (status : Nat) (headers : List Header) (body : Bytes) (token : IdentityToken),
        source.Answered request around ⟨status, headers, some body⟩ →
        Yields BeginsTyped (Node.Readable 126) now status headers body token →
        source.token? request around now = some (.ok token)) ∧
      (¬ ∀ (source : FederatedSource) (request : IdentityRequest) (around : Surroundings) (now : Instant)
        (status : Nat) (headers : List Header) (body : Bytes) (token : IdentityToken),
        source.Answered request around ⟨status, headers, some body⟩ →
        Yields IsTyped Node.Whole now status headers body token →
        source.token? request around now = some (.ok token)) ∧
      ¬ ∀ (source : FederatedSource) (request : IdentityRequest) (around : Surroundings),
        ∃ sent, sent.length ≤ 1 ∧
          (source.request request around).2.seen = around.network.seen ++ sent := by
  refine ⟨fun h => ?_, fun h => ?_, fun h => ?_⟩
  · have yields : Yields BeginsTyped (Node.Readable 126) epoch 200 ([accented].map Answer.trimmed)
        (Utf8.ofString (grantText "3600")) hourLater :=
      yields_promise none beginsTyped_accented (by simp) (by simp) (by decide +kernel)
    have granted := h _ _ _ epoch _ _ _ _ (answered_nearby [accented] (grantText "3600") []) yields
    exact token?_ne_ok (by decide +kernel) granted
  · have yields : Yields IsTyped Node.Whole epoch 200 [] (Utf8.ofString halved) hourLater :=
      yields_promise (some (.string none)) (by rintro _ ⟨⟩) (by simp [Node.Whole.string])
        (by simp [Node.Whole.string]) (by decide +kernel)
    have granted := h _ _ _ epoch _ _ _ _ (answered_nearby [] halved []) yields
    exact token?_ne_ok (by decide +kernel) granted
  · obtain ⟨sent, once, seen⟩ := h nearby asking (answering [elsewhere, granting [] (grantText "3600")] [])
    have twice := seen_elsewhere
    rw [seen, List.length_append] at twice
    have none : (answering [elsewhere, granting [] (grantText "3600")] []).network.seen.length = 0 := rfl
    omega

end FederatedSource

end RegistryLogin
