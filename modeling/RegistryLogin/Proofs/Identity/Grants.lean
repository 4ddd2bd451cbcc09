import RegistryLogin.Identity.TokenResponse
import RegistryLogin.Proofs.Json.Records
import Mathlib.Tactic.Simproc.ExistsAndEq

namespace RegistryLogin

open Json

lemma Json.Node.integer_u64_eq_ok_iff {node : Node} {n : Nat} (positive : 1 ≤ n) :
    node.integer .u64 = .ok (n : Int) ↔
      node = .number (some (.natural n)) ∧ n ≤ Numeral.largest := by
  unfold integer Numeral.largest
  split
  · simp only [fit_eq_ok_iff, Width.u64, Node.number.injEq, Option.some.injEq, Number.natural.injEq]
    omega
  · simp only [fit_eq_ok_iff, Width.u64, Node.number.injEq, Option.some.injEq, reduceCtorEq, false_and,
      iff_false]
    omega
  · rename_i other _
    constructor
    · intro h
      exact absurd h mismatch_ne_ok
    · rintro ⟨rfl, -⟩
      exact absurd rfl (other _)

namespace Grant

def fields : List String := ["access_token", "token_type", "expires_in", "refresh_token", "scope"]

variable {members : List Node.Member} {node : Node}

namespace Draft

structure Takes (members : List Node.Member) (draft draft' : Draft) : Prop where
  others : PassesOver fields (Node.Readable 126) members
  accessToken : Filled Node.text (valuesOf "access_token" members) draft.accessToken draft'.accessToken
  tokenType : Filled Node.text (valuesOf "token_type" members) draft.tokenType draft'.tokenType
  expiresIn : Filled (Node.optional (Node.integer .u64)) (valuesOf "expires_in" members)
    draft.expiresIn draft'.expiresIn
  refreshToken : Filled (Node.optional Node.text) (valuesOf "refresh_token" members)
    draft.refreshToken draft'.refreshToken
  scope : Filled (Node.optional Node.text) (valuesOf "scope" members) draft.scope draft'.scope

lemma takes_accumulates : Accumulates Takes where
  nil draft draft' := by
    constructor
    · rintro ⟨-, h₁, h₂, h₃, h₄, h₅⟩
      cases draft
      cases draft'
      simp_all
    · rintro rfl
      exact ⟨passesOver_nil _ _, .none _, .none _, .none _, .none _, .none _⟩
  append front back draft draft' := by
    constructor
    · rintro ⟨others, h₁, h₂, h₃, h₄, h₅⟩
      rw [passesOver_append] at others
      rw [valuesOf_append, filled_append] at h₁ h₂ h₃ h₄ h₅
      obtain ⟨a, ha, ha'⟩ := h₁
      obtain ⟨b, hb, hb'⟩ := h₂
      obtain ⟨c, hc, hc'⟩ := h₃
      obtain ⟨d, hd, hd'⟩ := h₄
      obtain ⟨e, he, he'⟩ := h₅
      exact ⟨⟨a, b, c, d, e⟩, ⟨others.1, ha, hb, hc, hd, he⟩, others.2, ha', hb', hc', hd', he'⟩
    · rintro ⟨mid, first, second⟩
      refine ⟨passesOver_append.mpr ⟨first.others, second.others⟩, ?_, ?_, ?_, ?_, ?_⟩
      · rw [valuesOf_append]
        exact filled_append.mpr ⟨_, first.accessToken, second.accessToken⟩
      · rw [valuesOf_append]
        exact filled_append.mpr ⟨_, first.tokenType, second.tokenType⟩
      · rw [valuesOf_append]
        exact filled_append.mpr ⟨_, first.expiresIn, second.expiresIn⟩
      · rw [valuesOf_append]
        exact filled_append.mpr ⟨_, first.refreshToken, second.refreshToken⟩
      · rw [valuesOf_append]
        exact filled_append.mpr ⟨_, first.scope, second.scope⟩
  key node draft draft' := fun h => not_passesOver_none h.others

lemma takes_iff {draft draft' : Draft} : Takes members draft draft' ↔
    PassesOver fields (Node.Readable 126) members ∧
      Filled Node.text (valuesOf "access_token" members) draft.accessToken draft'.accessToken ∧
      Filled Node.text (valuesOf "token_type" members) draft.tokenType draft'.tokenType ∧
      Filled (Node.optional (Node.integer .u64)) (valuesOf "expires_in" members) draft.expiresIn
        draft'.expiresIn ∧
      Filled (Node.optional Node.text) (valuesOf "refresh_token" members) draft.refreshToken
        draft'.refreshToken ∧
      Filled (Node.optional Node.text) (valuesOf "scope" members) draft.scope draft'.scope :=
  ⟨fun ⟨h, h₁, h₂, h₃, h₄, h₅⟩ => ⟨h, h₁, h₂, h₃, h₄, h₅⟩,
    fun ⟨h, h₁, h₂, h₃, h₄, h₅⟩ => ⟨h, h₁, h₂, h₃, h₄, h₅⟩⟩

lemma visit_eq_ok_iff (key : List Char) (node : Node) (draft draft' : Draft) :
    draft.visit (String.ofList key) node = .ok draft' ↔ Takes [(some key, node)] draft draft' := by
  obtain ⟨a, b, c, d, e⟩ := draft
  obtain ⟨a', b', c', d', e'⟩ := draft'
  simp only [takes_iff, passesOver_one, valuesOf_one]
  generalize String.ofList key = name
  -- a known name fills its own field and leaves the other four as they are
  by_cases h : name ∈ fields
  · simp only [fields, List.mem_cons, List.not_mem_nil, or_false] at h
    rcases h with rfl | rfl | rfl | rfl | rfl
    · simp [visit, map_eq_ok_iff, filled_one "access_token", fields, and_left_comm]
    · simp [visit, map_eq_ok_iff, filled_one "token_type", fields, and_left_comm]
    · simp [visit, map_eq_ok_iff, filled_one "expires_in", fields, and_left_comm]
    · simp [visit, map_eq_ok_iff, filled_one "refresh_token", fields, and_left_comm]
    · simp [visit, map_eq_ok_iff, filled_one "scope", fields, and_left_comm]
  · have others := h
    simp only [fields, List.mem_cons, List.not_mem_nil, or_false, not_or] at others
    simp [visit, others, h, ofBreak_eq_ok_iff, depth, Node.readAny_eq_ok_iff]

end Draft

/-- An object that promises a token for so many seconds, if its other members can be passed over. -/
inductive Promises (passable : Node → Prop) (secret : String) (seconds : Nat) : Node → Prop
  | object {members : List Node.Member} {kind : String}
    (others : PassesOver fields passable members)
    (accessToken : valuesOf "access_token" members = [.string (some secret.toList)])
    (tokenType : valuesOf "token_type" members = [.string (some kind.toList)])
    (expiresIn : valuesOf "expires_in" members = [.number (some (.natural seconds))])
    (refreshToken : valuesOf "refresh_token" members = [] ∨
      ∃ text, valuesOf "refresh_token" members = [.ofText text])
    (scope : valuesOf "scope" members = [] ∨ ∃ text, valuesOf "scope" members = [.ofText text]) :
    Promises passable secret seconds (.object members .closed)

variable {passable : Node → Prop} {secret : String} {seconds : Nat}

lemma Promises.isNested (h : Promises passable secret seconds node) : node.isNested = true := by
  cases h
  rfl

lemma Promises.whole (h : Promises passable secret seconds node)
    (passes : ∀ value, passable value → value.Whole) : node.Whole := by
  cases h with
  | object others accessToken tokenType expiresIn refreshToken scope =>
    have whole : PassesOver fields Node.Whole _ := fun m hm => by
      obtain ⟨key, text, other⟩ := others m hm
      exact ⟨key, text, fun named => passes _ (other named)⟩
    refine .object (whole.whole ?_)
    have optional {values : List Node} (h : values = [] ∨ ∃ text, values = [.ofText text]) :
        ∀ value ∈ values, value.Whole := by
      rcases h with rfl | ⟨text, rfl⟩
      · simp
      · simpa using Node.whole_ofText text
    simp only [fields, List.forall_mem_cons, accessToken, tokenType, expiresIn]
    refine ⟨?_, ?_, ?_, optional refreshToken, optional scope, by simp⟩
    · simp [Node.Whole.string]
    · simp [Node.Whole.string]
    · simp [Node.Whole.number]

lemma complete_eq_ok_iff {draft : Draft} {grant : Grant} : draft.complete = .ok grant ↔
    draft.accessToken = some grant.accessToken ∧ draft.tokenType.isSome ∧
      draft.expiresIn.getD none = grant.expiresIn := by
  obtain ⟨secret, expiresIn⟩ := grant
  simp only [Draft.complete, bind_eq_ok_iff, required_eq_ok_iff, Except.ok.injEq, mk.injEq,
    Option.isSome_iff_exists]
  constructor
  · rintro ⟨_, token, kind, typed, rfl, stated⟩
    exact ⟨token, ⟨kind, typed⟩, stated⟩
  · rintro ⟨token, ⟨kind, typed⟩, stated⟩
    exact ⟨_, token, kind, typed, rfl, stated⟩

lemma filled_seconds (positive : 1 ≤ seconds) {values : List Node} {found : Option (Option Int)} :
    Filled (Node.optional (Node.integer .u64)) values none found ∧
        found.getD none = some (seconds : Int) ↔
      values = [.number (some (.natural seconds))] ∧ seconds ≤ Numeral.largest ∧
        found = some (some (seconds : Int)) := by
  have typed (n : Int) : Node.null.integer .u64 ≠ .ok n := by simp [Node.integer, Node.mismatch_ne_ok]
  have iff (node : Node) : node.integer .u64 = .ok (seconds : Int) ↔ _ :=
    Node.integer_u64_eq_ok_iff positive
  constructor
  · rintro ⟨filled, stated⟩
    obtain ⟨-, rfl⟩ | ⟨node, stated', rfl, read, rfl⟩ := filled_none_iff.mp filled
    · cases stated
    · obtain rfl : stated' = some (seconds : Int) := stated
      obtain ⟨rfl, fits⟩ := (iff node).mp ((Node.optional_some_eq_ok_iff typed).mp read)
      exact ⟨rfl, fits, rfl⟩
  · rintro ⟨rfl, fits, rfl⟩
    exact ⟨.one ((Node.optional_some_eq_ok_iff typed).mpr ((iff _).mpr ⟨rfl, fits⟩)), rfl⟩

lemma read_object_eq_ok_iff {tail : Tail} {grant : Grant} :
    read (.object members tail) = .ok grant ↔ ∃ draft : Draft,
      (Draft.empty.Takes members draft ∧ tail = .closed) ∧ draft.complete = .ok grant := by
  simp only [read, bind_eq_ok_iff, visitObject_eq_ok_iff,
    visitMembers_iff Draft.takes_accumulates Draft.visit_eq_ok_iff]

theorem read_eq_ok_iff (positive : 1 ≤ seconds) :
    read node = .ok ⟨secret, some (seconds : Int)⟩ ↔
      Promises (Node.Readable 126) secret seconds node ∧ seconds ≤ Numeral.largest := by
  cases node with
  | object members tail =>
    rw [read_object_eq_ok_iff]
    constructor
    · rintro ⟨draft, ⟨takes, rfl⟩, complete⟩
      obtain ⟨token, typed, stated⟩ := complete_eq_ok_iff.mp complete
      obtain ⟨-, none⟩ | ⟨_, accessToken, same⟩ := filled_text.mp takes.accessToken
      · cases token.symm.trans none
      obtain rfl := Option.some.inj (same.symm.trans token)
      obtain ⟨-, none⟩ | ⟨kind, tokenType, -⟩ := filled_text.mp takes.tokenType
      · rw [none] at typed
        cases typed
      obtain ⟨expiresIn, fits, -⟩ := (filled_seconds positive).mp ⟨takes.expiresIn, stated⟩
      refine ⟨.object takes.others accessToken tokenType expiresIn ?_ ?_, fits⟩
      · exact (filled_optional_text.mp takes.refreshToken).imp And.left fun ⟨t, one, _⟩ => ⟨t, one⟩
      · exact (filled_optional_text.mp takes.scope).imp And.left fun ⟨t, one, _⟩ => ⟨t, one⟩
    · rintro ⟨⟨others, accessToken, tokenType, expiresIn, refreshToken, scope⟩, fits⟩
      rename_i kind
      have optional {values : List Node} (h : values = [] ∨ ∃ text, values = [.ofText text]) :
          ∃ found, Filled (Node.optional Node.text) values none found := by
        rcases h with none | ⟨t, one⟩
        · exact ⟨_, filled_optional_text.mpr (.inl ⟨none, rfl⟩)⟩
        · exact ⟨_, filled_optional_text.mpr (.inr ⟨t, one, rfl⟩)⟩
      obtain ⟨refresh, filledRefresh⟩ := optional refreshToken
      obtain ⟨scopes, filledScope⟩ := optional scope
      refine ⟨⟨some secret, some kind, some (some (seconds : Int)), refresh, scopes⟩, ⟨⟨others,
        filled_text.mpr (.inr ⟨_, accessToken, rfl⟩), filled_text.mpr (.inr ⟨_, tokenType, rfl⟩),
        ((filled_seconds positive).mpr ⟨expiresIn, fits, rfl⟩).1, filledRefresh, filledScope⟩, rfl⟩,
        complete_eq_ok_iff.mpr ⟨rfl, rfl, rfl⟩⟩
  | _ =>
    simp only [read, Node.mismatch_ne_ok, false_iff]
    rintro ⟨⟨⟩, -⟩

end Grant

end RegistryLogin
