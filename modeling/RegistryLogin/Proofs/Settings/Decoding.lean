import RegistryLogin.Settings.Config
import RegistryLogin.Proofs.Json.Writing

namespace RegistryLogin

open Json Text

namespace Json.Value

variable {key : String} {members : List (String × Value)}

lemma member?_filter {p : String × Value → Bool} (h : ∀ value, p (key, value) = true) :
    member? key (.object (members.filter p)) = member? key (.object members) := by
  have same : (fun m : String × Value => decide (p m = true ∧ (m.1 == key) = true)) =
      fun m => m.1 == key := by
    funext m
    by_cases named : m.1 = key
    · obtain ⟨name, value⟩ := m
      cases named
      simp [h]
    · simp [named]
  rw [member?, member?, ← List.filter_reverse, List.find?_filter, same]

end Json.Value

namespace Config

variable {path : Path} {found name client : Option Value} {value : Value} {id : Option String}
variable {outcome : Except Defect Config}

inductive Declares : Option Value → Option String → Prop
  | absent : Declares none none
  | null : Declares (some .null) none
  | text (id : String) : Declares (some (.string id)) (some id)

inductive Decodes (name client : Option Value) : Except Defect Config → Prop
  | ok {s : String} {id : Option String} (named : name = some (.string s)) (declared : Declares client id) :
    Decodes name client (.ok ⟨s, id⟩)
  | client {value : Value} (found : client = some value) (other : ∀ id, ¬ Declares (some value) id) :
    Decodes name client (.error ⟨.wrongType value.shape "a string", .field "clientID"⟩)
  | name {id : Option String} {value : Value} (declared : Declares client id) (found : name = some value)
    (other : ∀ s, value ≠ .string s) :
    Decodes name client (.error ⟨.wrongType value.shape "a string", .field "name"⟩)
  | missing {id : Option String} (declared : Declares client id) (absent : name = none) :
    Decodes name client (.error ⟨.missingField "name", .whole⟩)

lemma text_of_other (other : ∀ s, value ≠ .string s) :
    text path value = .error ⟨.wrongType value.shape "a string", path⟩ := by
  cases value with
  | string s => exact absurd rfl (other s)
  | _ => rfl

lemma optionalText_of_declares (h : Declares found id) : optionalText path found = .ok id := by
  cases h <;> rfl

lemma optionalText_of_other (other : ∀ id, ¬ Declares (some value) id) :
    optionalText path (some value) = .error ⟨.wrongType value.shape "a string", path⟩ := by
  cases value with
  | null => exact absurd .null (other none)
  | string s => exact absurd (.text s) (other (some s))
  | _ => rfl

lemma declares_or_other (found : Option Value) :
    (∃ id, Declares found id) ∨ ∃ value, found = some value ∧ ∀ id, ¬ Declares (some value) id := by
  cases found with
  | none => exact .inl ⟨none, .absent⟩
  | some value =>
    by_cases declared : ∃ id, Declares (some value) id
    · exact .inl declared
    · exact .inr ⟨value, rfl, not_exists.mp declared⟩

lemma exists_decodes (name client : Option Value) : ∃ outcome, Decodes name client outcome := by
  rcases declares_or_other client with ⟨id, declared⟩ | ⟨value, found, other⟩
  · cases name with
    | none => exact ⟨_, .missing declared rfl⟩
    | some value =>
      by_cases named : ∃ s, value = .string s
      · obtain ⟨s, rfl⟩ := named
        exact ⟨_, .ok rfl declared⟩
      · exact ⟨_, .name declared rfl (not_exists.mp named)⟩
  · exact ⟨_, .client found other⟩

lemma ofMembers_of_decodes
    (h : Decodes (value.member? nameField) (value.member? clientField) outcome) :
    ofMembers value = outcome := by
  rw [ofMembers]
  cases h with
  | ok named declared =>
    rw [optionalText_of_declares declared, named]
    rfl
  | client found other =>
    rw [found, optionalText_of_other other]
    rfl
  | name declared found other =>
    simp only [optionalText_of_declares declared, found, text_of_other other]
    rfl
  | missing declared absent =>
    rw [optionalText_of_declares declared, absent]
    rfl

theorem decodes_iff : Decodes (value.member? nameField) (value.member? clientField) outcome ↔
    ofMembers value = outcome := by
  constructor
  · exact ofMembers_of_decodes
  · rintro rfl
    obtain ⟨outcome, decodes⟩ := exists_decodes (value.member? nameField) (value.member? clientField)
    exact ofMembers_of_decodes decodes ▸ decodes

lemma ofValue_toValue (config : Config) : ofValue config.toValue = .ok config := by
  obtain ⟨name, client⟩ := config
  apply decodes_iff.mp
  cases client with
  | none => exact .ok rfl .absent
  | some id => exact .ok rfl (.text id)

lemma exact_toValue (config : Config) : config.toValue.Exact := by
  refine .object fun member hm => ?_
  rcases List.mem_cons.mp hm with rfl | hm
  · exact .string config.name
  · obtain ⟨id, -, rfl⟩ := List.mem_map.mp hm
    exact .string id

def isField (key : String) : Bool := key = "name" ∨ key = "clientID"

/-- An object is decoded from what it holds under the two names, the client being judged first, whatever
its other members are; and a choice that is written is read as it was. -/
theorem decoding_exact :
    (∀ (members : List (String × Value)) (outcome : Except Defect Config),
      ofValue (.object members) = outcome ↔
        Decodes ((Value.object members).member? "name") ((Value.object members).member? "clientID")
          outcome) ∧
    (∀ members members' : List (String × Value),
      members.filter (isField ·.1) = members'.filter (isField ·.1) →
      ofValue (.object members) = ofValue (.object members')) ∧
    ∀ config : Config, ofValue config.toValue = .ok config ∧
      (Value.ofBytes? (Utf8.ofString config.toValue.toText)).map ofValue = some (.ok config) := by
  have own {key : String} (field : isField key = true) (members : List (String × Value)) :
      (Value.object (members.filter (isField ·.1))).member? key = (Value.object members).member? key :=
    Value.member?_filter fun _ => field
  refine ⟨fun members outcome => decodes_iff.symm, ?_, fun config => ⟨ofValue_toValue config, ?_⟩⟩
  · intro members members' same
    apply decodes_iff.mp
    rw [← own (by decide) members, ← own (by decide) members, same, own (by decide), own (by decide)]
    exact decodes_iff.mpr rfl
  · rw [Value.ofBytes?_toText config.exact_toValue, Option.map_some, ofValue_toValue]

theorem decoding_exact_nested :
    let others (inner : Value) : List (String × Value) := [("name", .null), ("more", .array [inner]),
      ("clientID", .bool true), ("named", .string "x")]
    let inner : Value := .object [("name", .string "n"), ("clientID", .null)]
    ofValue (.object (others inner)) = ofValue (.object (others .null)) ∧
      ofValue (.object (others inner)) = .error ⟨.wrongType (.bool true) "a string", .field "clientID"⟩ := by
  intro others inner
  refine ⟨decoding_exact.2.1 _ _ rfl, (decoding_exact.1 _ _).mpr ?_⟩
  have found : (Value.object (others inner)).member? "clientID" = some (.bool true) := rfl
  exact .client found (by rintro _ ⟨⟩)

end Config

end RegistryLogin
