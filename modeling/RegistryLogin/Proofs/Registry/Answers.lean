import RegistryLogin.Proofs.Http.Redirects
import RegistryLogin.Proofs.Json.Records
import RegistryLogin.Proofs.Registry.Endpoints

namespace RegistryLogin

open Json Text

namespace ExchangeResponse

/-- An object or array that has this refresh token, or none. -/
inductive Bears : Node → Option String → Prop
  | absent {members : List Node.Member} (others : PassesOver [refreshField] Node.Whole members)
    (none : valuesOf refreshField members = []) : Bears (.object members .closed) .none
  | field {members : List Node.Member} {token : Option String}
    (others : PassesOver [refreshField] Node.Whole members)
    (one : valuesOf refreshField members = [.ofText token]) : Bears (.object members .closed) token
  | empty : Bears (.array [] .closed) none
  | item (token : Option String) : Bears (.array [.ofText token] .closed) token

variable {members : List Node.Member} {found found' : Option (Option String)} {node : Node}
variable {token : Option String}

lemma Bears.isNested (h : Bears node token) : node.isNested = true := by
  cases h <;> rfl

def Takes (members : List Node.Member) (found found' : Option (Option String)) : Prop :=
  PassesOver [refreshField] Node.Whole members ∧
    Filled (Node.optional Node.text) (valuesOf refreshField members) found found'

lemma takes_accumulates : Accumulates Takes where
  nil found found' := by simp [Takes]
  append front back found found' := by
    simp only [Takes, passesOver_append, valuesOf_append, filled_append]
    constructor
    · rintro ⟨⟨first, second⟩, mid, filled, further⟩
      exact ⟨mid, ⟨first, filled⟩, second, further⟩
    · rintro ⟨mid, ⟨first, filled⟩, second, further⟩
      exact ⟨⟨first, second⟩, mid, filled, further⟩
  key node found found' := fun h => not_passesOver_none h.1

lemma visit_eq_ok_iff (key : List Char) (node : Node) (found found' : Option (Option String)) :
    visit found (String.ofList key) node = .ok found' ↔ Takes [(some key, node)] found found' := by
  rw [Takes, passesOver_one, valuesOf_one, visit]
  by_cases h : String.ofList key = refreshField
  · simp [h, filled_one refreshField]
  · simp [h, ofBreak_eq_ok_iff, Node.skip_eq_ok_iff]

lemma bears_object {tail : Tail} : Bears (.object members tail) token ↔
    PassesOver [refreshField] Node.Whole members ∧ tail = .closed ∧
      (valuesOf refreshField members = [] ∧ token = none ∨
        valuesOf refreshField members = [.ofText token]) := by
  constructor
  · intro h
    cases h with
    | absent others none => exact ⟨others, rfl, .inl ⟨none, rfl⟩⟩
    | field others one => exact ⟨others, rfl, .inr one⟩
  · rintro ⟨others, rfl, ⟨none, rfl⟩ | one⟩
    · exact .absent others none
    · exact .field others one

lemma read_object {tail : Tail} : read (.object members tail) = .ok token ↔
    Bears (.object members tail) token := by
  rw [read, map_eq_ok_iff, bears_object]
  simp only [visitObject_eq_ok_iff, visitMembers_iff takes_accumulates visit_eq_ok_iff, Takes,
    filled_optional_text]
  constructor
  · rintro ⟨_, ⟨⟨others, ⟨none, rfl⟩ | ⟨t, one, rfl⟩⟩, closed⟩, rfl⟩
    · exact ⟨others, closed, .inl ⟨none, rfl⟩⟩
    · exact ⟨others, closed, .inr one⟩
  · rintro ⟨others, closed, ⟨none, rfl⟩ | one⟩
    · exact ⟨_, ⟨⟨others, .inl ⟨none, rfl⟩⟩, closed⟩, rfl⟩
    · exact ⟨_, ⟨⟨others, .inr ⟨_, one, rfl⟩⟩, closed⟩, rfl⟩

lemma read_array {items : List Node} {tail : Tail} : read (.array items tail) = .ok token ↔
    Bears (.array items tail) token := by
  simp only [read, bind_eq_ok_iff, optionalItem_eq_ok_iff, endArray_eq_ok_iff,
    Node.optional_text_eq_ok_iff]
  constructor
  · rintro ⟨t, first, _, ⟨short, rfl⟩, ⟨⟩⟩
    -- a second item is not read, but the end of the array refuses it
    rcases items with _ | ⟨item, _ | ⟨second, items⟩⟩
    · obtain ⟨_, ⟨⟩, -⟩ | ⟨-, -, rfl⟩ := first
      exact .empty
    · obtain ⟨_, ⟨⟩, rfl⟩ | ⟨⟨⟩, -⟩ := first
      exact .item _
    · simp at short
  · rintro ⟨⟩
    · exact ⟨none, .inr ⟨rfl, rfl, rfl⟩, (), ⟨by simp, rfl⟩, rfl⟩
    · exact ⟨_, .inl ⟨_, rfl, rfl⟩, (), ⟨by simp, rfl⟩, rfl⟩

theorem read_eq_ok_iff : read node = .ok token ↔ Bears node token := by
  cases node with
  | object members tail => exact read_object
  | array items tail => exact read_array
  | _ =>
    simp only [read, Node.mismatch_ne_ok, false_iff]
    rintro ⟨⟩

lemma Bears.whole (h : Bears node token) : node.Whole := by
  cases h with
  | absent others none => exact .object (others.whole (by simp [none]))
  | field others one => exact .object (others.whole (by simp [one, Node.whole_ofText]))
  | empty => exact .array (by simp)
  | item => exact .array (by simp [Node.whole_ofText])

theorem readFirst_eq_ok_iff {body : Bytes} : readFirst read body = .ok token ↔
    ∃ text rest node, body = text ++ rest ∧ Spells text node ∧ Bears node token := by
  rw [readFirst, read_eq_ok_iff]
  exact firstValue_iff (fun _ (h : Bears _ token) => ⟨h.isNested, h.whole⟩) body

/-- What becomes of an answer that came in full. -/
structure Judged (present : Instant) (status : Nat) (headers : List Header) (body : Bytes)
    (result : Except ExchangeError (Option Secret)) : Prop where
  refused : ¬ (200 ≤ status ∧ status < 300) →
    result = .error (.status status (preview body) (RetryAfter.ofHeaders? present headers))
  granted : 200 ≤ status → status < 300 → ∀ token, result = .ok (token.map Secret.mk) ↔
    ∃ text rest node, body = text ++ rest ∧ Spells text node ∧ Bears node token
  malformed : 200 ≤ status → status < 300 → ∀ error, result = .error error →
    ∃ fault, error = .parse fault status

lemma judged_conclude (present : Instant) (status : Nat) (headers : List Header) (body : Bytes) :
    Judged present status headers body (conclude present (some ⟨status, headers, some body⟩)) := by
  rw [conclude, judge]
  by_cases success : 200 ≤ status ∧ status < 300
  · rw [if_pos success]
    refine ⟨fun failure => absurd success failure, fun _ _ token => ?_, fun _ _ error h => ?_⟩
    · have inj : Function.Injective (Option.map Secret.mk) :=
        Option.map_injective fun s t same => congrArg Secret.text same
      rw [← readFirst_eq_ok_iff]
      cases readFirst read body with
      | ok found => simp [inj.eq_iff]
      | error fault => simp
    · cases hr : readFirst read body with
      | ok found =>
        rw [hr] at h
        cases h
      | error fault =>
        rw [hr] at h
        exact ⟨fault, (Except.error.inj h).symm⟩
  · rw [if_neg success]
    exact ⟨fun _ => rfl, fun low high => absurd ⟨low, high⟩ success,
      fun low high => absurd ⟨low, high⟩ success⟩

end ExchangeResponse

namespace RegistryClient

open ExchangeResponse

variable {client : RegistryClient}

end RegistryClient

end RegistryLogin
