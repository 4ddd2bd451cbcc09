import RegistryLogin.Http.Handles
import RegistryLogin.Proofs.Identity.TokenAnswers

namespace RegistryLogin

open Text

namespace Handles

variable {handles next : Handles} {heard : Option Metadata}

lemma run_append (handles : Handles) (before after : List Move) :
    handles.run (before ++ after) = (handles.run before).bind (·.run after) :=
  List.foldlM_append ..

lemma run_cons (handles : Handles) (move : Move) (moves : List Move) :
    handles.run (move :: moves) = (handles.step move).bind (·.run moves) := rfl

structure Tells (handles : Handles) (heard : Option Metadata) : Prop where
  content : handles.slot.content = heard
  silent : handles.phase = .sending → heard = none

lemma tells_of_start {sound : Bool} (h : handles.step (.start sound) = some next) :
    next.Tells none := by
  obtain ⟨slot, _ | _ | _, delivered⟩ := handles <;> cases h
  exact ⟨rfl, fun _ => rfl⟩

lemma Tells.step (tells : handles.Tells heard) {move : Move} (own : move.continues = true)
    (h : handles.step move = some next) : next.Tells (heard.or move.metadata?) := by
  obtain ⟨slot, phase, delivered⟩ := handles
  obtain ⟨rfl, silent⟩ := tells
  cases move with
  | store metadata | take | start sound => cases own
  | head present status headers =>
    cases phase with
    | idle | receiving status headers => cases h
    | sending =>
      cases h
      have nothing : slot.content = none := silent rfl
      exact ⟨by simp [nothing, Move.metadata?, MetadataSlot.store], nofun⟩
  | finish body =>
    cases phase with
    | idle | sending => cases h
    | receiving status headers =>
      cases h
      exact ⟨(Option.or_none).symm, nofun⟩
  | stop =>
    cases phase with
    | idle => cases h
    | sending | receiving status headers =>
      cases h
      exact ⟨(Option.or_none).symm, nofun⟩

lemma Tells.run (tells : handles.Tells heard) {moves : List Move}
    (own : ∀ move ∈ moves, move.continues = true) (h : handles.run moves = some next) :
    next.Tells (heard.or (moves.findSome? Move.metadata?)) := by
  induction moves generalizing handles heard with
  | nil =>
    cases h
    simpa using tells
  | cons move moves ih =>
    obtain ⟨middle, first, rest⟩ := Option.bind_eq_some_iff.mp (run_cons .. ▸ h)
    have continued := ih (tells.step (own move List.mem_cons_self) first)
      (fun later mem => own later (List.mem_cons_of_mem move mem)) rest
    rw [List.findSome?_cons]
    cases hm : move.metadata? <;> simpa [hm, Option.or_assoc] using continued

lemma tells_of_request (before : List Move) {during : List Move} {sound : Bool}
    (h : handles.run (before ++ .start sound :: during) = some next)
    (own : ∀ move ∈ during, move.continues = true) :
    next.Tells (during.findSome? Move.metadata?) := by
  obtain ⟨ready, -, request⟩ := Option.bind_eq_some_iff.mp (run_append .. ▸ h)
  obtain ⟨begun, start, rest⟩ := Option.bind_eq_some_iff.mp (run_cons .. ▸ request)
  simpa using (tells_of_start start).run own rest

lemma run_course (slot : MetadataSlot) (delivered : Option Delivery) (present : Instant)
    (response : Option Response) :
    (⟨slot, .idle, delivered⟩ : Handles).run (course present response) =
      some ⟨(slot.deliver present response).2, .idle, (slot.deliver present response).1⟩ := by
  obtain _ | ⟨status, headers, _ | body⟩ := response <;> rfl

end Handles

lemma MetadataSlot.take_deliver (slot : MetadataSlot) (present : Instant) (response : Option Response) :
    (slot.deliver present response).2.take.1 =
      response.map fun r => Metadata.ofResponse present r.status r.headers := by
  have ran := Handles.run_course slot none present response
  obtain _ | ⟨status, headers, _ | body⟩ := response
  · exact (Handles.tells_of_request [] ran (by decide)).content
  all_goals exact (Handles.tells_of_request [] ran (by simp [Handles.Move.continues])).content

/-- Status and hint of this error, where it has them, are those of the metadata. -/
def IdentityError.Quotes (metadata : Option Metadata) : IdentityError → Prop
  | .rejected _ _ status | .parse _ status => status = metadata.bind (·.status)
  | .unexpected _ status retryAfter =>
    status = metadata.bind (·.status) ∧ retryAfter = metadata.bind (·.retryAfter)
  | .tokenFile .. | .emptyTokenFile _ | .invalidEndpoint _ | .transport | .missingExpiresIn
  | .expiresInOutOfRange | .expiresInNotPositive => True

namespace TokenResponse

variable {metadata : Option Metadata} {error : IdentityError}

lemma quotes_of_judge {delivery : Delivery} (h : judge metadata delivery = .error error) :
    error.Quotes metadata := by
  simp only [judge] at h
  split at h
  · simp only [grant] at h
    split at h
    · cases h
      exact ⟨rfl, rfl⟩
    · split at h
      · cases h
        exact ⟨rfl, rfl⟩
      · cases hr : Json.readFirst Grant.read delivery.body with
        | ok grant => simp [hr, Except.mapError] at h
        | error fault =>
          simp only [hr, Except.mapError, Except.error.injEq] at h
          exact h ▸ rfl
  · obtain rfl := Except.error.inj h
    simp only [rejection]
    split
    · exact ⟨rfl, rfl⟩
    · split <;> exact rfl

lemma quotes_of_issue {grant : Grant} (h : issue grant = .error error) : error.Quotes metadata := by
  have failed : settled? FederatedSource.epoch (issue grant) = some (.error error) := by
    rw [h]
    rfl
  obtain rfl | rfl | rfl := settled?_issue_error failed <;> trivial

end TokenResponse

namespace FederatedSource

variable {source : FederatedSource} {request : IdentityRequest} {around : Surroundings}
variable {error : IdentityError}

lemma quotes_of_conclude {present : Instant} {response : Option Response}
    (h : conclude present response = .error error) :
    error.Quotes (response.map fun r => Metadata.ofResponse present r.status r.headers) := by
  rw [← MetadataSlot.empty.take_deliver]
  rw [conclude] at h
  split at h
  · cases h
    trivial
  · rename_i delivery slot delivered
    rw [delivered]
    cases hj : TokenResponse.judge slot.take.1 delivery with
    | error judged =>
      obtain rfl := Except.error.inj (hj ▸ h)
      exact TokenResponse.quotes_of_judge hj
    | ok grant => exact TokenResponse.quotes_of_issue (hj ▸ h)

lemma Unsent.quotes (h : source.Unsent request around error) : error.Quotes none := by
  cases h with
  | unread => trivial
  | blank => trivial
  | lost => trivial
  | unfit => exact ⟨rfl, rfl⟩

lemma quotes_of_request (h : (source.request request around).1 = .error error) :
    (∀ response, source.Answered request around response →
      error.Quotes (some (Metadata.ofResponse around.present response.status response.headers))) ∧
    ((¬ ∃ response, source.Answered request around response) → error.Quotes none) := by
  rcases source.puts_or_unsent request around with ⟨put, puts⟩ | ⟨error', unsent⟩
  · rw [request_puts puts, Prod.map_fst] at h
    have quotes := quotes_of_conclude h
    constructor
    · rintro response ⟨put', puts', answered⟩
      obtain rfl := puts.unique puts'
      rwa [answered] at quotes
    · intro unanswered
      cases sent : (around.network.send source.http put).1 with
      | none => rwa [sent] at quotes
      | some response => exact absurd ⟨response, put, puts, sent⟩ unanswered
  · rw [request_unsent unsent] at h
    obtain rfl := Except.error.inj h
    exact ⟨fun response ⟨put, puts, _⟩ => absurd puts unsent.not_puts, fun _ => unsent.quotes⟩

end FederatedSource

namespace Handles

/-- From its first poll until a step of others, a request leaves in the slot what the head of its own
answer says, and nothing before that head comes or if it never does. -/
theorem metadata_current :
    (∀ (first last : Handles) (before during : List Move) (sound : Bool),
      first.run (before ++ .start sound :: during) = some last →
      (∀ move ∈ during, move.continues = true) →
      last.slot.take.1 = during.findSome? Move.metadata? ∧ last.slot.take.2.take.1 = none) ∧
    ∀ (source : FederatedSource) (request : IdentityRequest) (around : Surroundings)
      (error : IdentityError), (source.request request around).1 = .error error →
      (∀ response, source.Answered request around response →
        error.Quotes (some (Metadata.ofResponse around.present response.status response.headers))) ∧
      ((¬ ∃ response, source.Answered request around response) → error.Quotes none) :=
  ⟨fun _ _ before _ _ ran own => ⟨(tells_of_request before ran own).content, rfl⟩,
    fun _ _ _ _ failed => FederatedSource.quotes_of_request failed⟩

def soon : Header := ⟨Utf8.ofString "Retry-After", Utf8.ofString "5"⟩

def fiveSeconds : Duration := ⟨5000000000, by decide, by decide⟩

lemma ofResponse_soon (status : Nat) :
    Metadata.ofResponse FederatedSource.epoch status [soon] = ⟨some status, some fiveSeconds⟩ := by
  rw [Metadata.ofResponse,
    show RetryAfter.ofHeaders? FederatedSource.epoch [soon] = some fiveSeconds by decide +kernel]

theorem metadata_current_broken :
    let first : Handles := ⟨⟨some ⟨some 200, none⟩⟩, .idle, none⟩
    let before : List Move := [.take, .start true, .stop, .store ⟨some 401, none⟩]
    let during : List Move := [.head FederatedSource.epoch 503 [soon], .stop]
    let around := FederatedSource.answering [FederatedSource.granting [soon] ""] []
    (∃ last, first.run (before ++ .start true :: during) = some last ∧
      (∀ move ∈ during, move.continues = true) ∧
      last.slot.take.1 = some ⟨some 503, some fiveSeconds⟩ ∧ last.slot.take.2.take.1 = none) ∧
    (∃ last, first.run ((before ++ .start true :: during) ++ [.start false]) = some last ∧
      last.slot.take.1 = none) ∧
    ∃ detail, (FederatedSource.nearby.request FederatedSource.asking around).1 =
      .error (.unexpected detail (some 200) (some fiveSeconds)) := by
  intro first before during around
  have own : ∀ move ∈ during, move.continues = true := by simp [during, Move.continues]
  have answered := FederatedSource.answered_nearby [soon] "" []
  have failed : ∃ detail status retryAfter,
      (FederatedSource.nearby.request FederatedSource.asking around).1 =
        .error (.unexpected detail status retryAfter) := by
    rw [answered.request_eq]
    exact ⟨_, _, _, rfl⟩
  refine ⟨?_, ?_, ?_⟩
  · obtain ⟨told, emptied⟩ := metadata_current.1 first _ before during true rfl own
    exact ⟨_, rfl, own, told.trans (congrArg some (ofResponse_soon 503)), emptied⟩
  · have ran : first.run ((before ++ .start true :: during) ++ [.start false]) =
        some ⟨.empty, .idle, none⟩ := by
      rw [run_append]
      rfl
    exact ⟨_, ran, (metadata_current.1 _ _ _ [] false ran (by simp)).1⟩
  · obtain ⟨detail, status, retryAfter, failed⟩ := failed
    have same : [soon].map Answer.trimmed = [soon] := by decide +kernel
    have quotes := (metadata_current.2 _ _ _ _ failed).1 _ answered
    rw [same] at quotes
    obtain ⟨rfl, rfl⟩ := (ofResponse_soon 200 ▸ quotes :
      (IdentityError.unexpected detail status retryAfter).Quotes (some ⟨some 200, some fiveSeconds⟩))
    exact ⟨detail, failed⟩

end Handles

end RegistryLogin
