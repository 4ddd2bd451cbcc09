import RegistryLogin.Json.Reading
import RegistryLogin.Proofs.Json.Trees
import Mathlib.Tactic.Lemma

namespace RegistryLogin.Json

lemma bind_eq_ok_iff {ε α β : Type} {x : Except ε α} {f : α → Except ε β} {b : β} :
    (x >>= f) = .ok b ↔ ∃ a, x = .ok a ∧ f a = .ok b := by
  cases x with
  | error e => simp [Bind.bind, Except.bind]
  | ok a => simp [Bind.bind, Except.bind]

lemma then_eq_ok_iff {ε α : Type} {x : Except ε Unit} {y : Except ε α} {a : α} :
    (x >>= fun _ => y) = .ok a ↔ x = .ok () ∧ y = .ok a := by
  cases x <;> simp [Bind.bind, Except.bind]

lemma map_eq_ok_iff {ε α β : Type} {x : Except ε α} {f : α → β} {b : β} :
    x.map f = .ok b ↔ ∃ a, x = .ok a ∧ f a = b := by
  cases x with
  | error e => simp [Except.map]
  | ok a => simp [Except.map]

@[simp] lemma Tail.skip_eq_ok_iff {tail : Tail} : tail.skip = .ok () ↔ tail = .closed := by
  cases tail <;> simp [Tail.skip]

@[simp] lemma Tail.read_eq_ok_iff {tail : Tail} : tail.read = .ok () ↔ tail = .closed := by
  cases tail <;> simp [Tail.read]

namespace Node

@[simp] lemma whole_array {items : List Node} {tail : Tail} :
    (Node.array items tail).Whole ↔ (∀ item ∈ items, item.Whole) ∧ tail = .closed := by
  constructor
  · intro h
    cases h with
    | array whole => exact ⟨whole, rfl⟩
  · rintro ⟨h, rfl⟩
    exact .array h

@[simp] lemma whole_object {members : List Member} {tail : Tail} :
    (Node.object members tail).Whole ↔ (∀ m ∈ members, m.2.Whole) ∧ tail = .closed := by
  constructor
  · intro h
    cases h with
    | object whole => exact ⟨whole, rfl⟩
  · rintro ⟨h, rfl⟩
    exact .object h

mutual

theorem skip_eq_ok_iff (node : Node) : node.skip = .ok () ↔ node.Whole := by
  cases node with
  | null => simp [skip, Whole.null]
  | bool b => simp [skip, Whole.bool]
  | number value => simp [skip, Whole.number]
  | string text => simp [skip, Whole.string]
  | array items tail =>
    rw [skip, then_eq_ok_iff, skipAll_eq_ok_iff items, Tail.skip_eq_ok_iff, whole_array]
  | object members tail =>
    rw [skip, then_eq_ok_iff, skipMembers_eq_ok_iff members, Tail.skip_eq_ok_iff, whole_object]
  | broken flaw =>
    rw [skip]
    constructor <;> rintro ⟨⟩

theorem skipAll_eq_ok_iff (items : List Node) :
    skipAll items = .ok () ↔ ∀ item ∈ items, item.Whole := by
  cases items with
  | nil => simp [skipAll]
  | cons item items =>
    rw [skipAll, then_eq_ok_iff, skip_eq_ok_iff item, skipAll_eq_ok_iff items, List.forall_mem_cons]

theorem skipMembers_eq_ok_iff (members : List (Option (List Char) × Node)) :
    skipMembers members = .ok () ↔ ∀ m ∈ members, m.2.Whole := by
  cases members with
  | nil => simp [skipMembers]
  | cons m members =>
    obtain ⟨key, node⟩ := m
    rw [skipMembers, then_eq_ok_iff, skip_eq_ok_iff node, skipMembers_eq_ok_iff members,
      List.forall_mem_cons]

end

/-- The value can be read in full: it nests this deep at most, its numbers are in range, and its keys
and strings are texts. -/
inductive Readable : Nat → Node → Prop
  | null (depth : Nat) : Readable depth .null
  | bool (depth : Nat) (b : Bool) : Readable depth (.bool b)
  | number (depth : Nat) (n : Number) : Readable depth (.number (some n))
  | string (depth : Nat) (text : List Char) : Readable depth (.string (some text))
  | array {depth : Nat} {items : List Node} (h : ∀ item ∈ items, Readable depth item) :
    Readable (depth + 1) (.array items .closed)
  | object {depth : Nat} {members : List Member} (keys : ∀ m ∈ members, m.1.isSome)
    (h : ∀ m ∈ members, Readable depth m.2) : Readable (depth + 1) (.object members .closed)

theorem Readable.whole {depth : Nat} {node : Node} (h : node.Readable depth) : node.Whole := by
  induction h with
  | null => exact .null
  | bool _ b => exact .bool b
  | number _ n => exact .number _
  | string _ text => exact .string _
  | array _ ih => exact .array ih
  | object _ _ ih => exact .object ih

@[simp] lemma readable_array {depth : Nat} {items : List Node} {tail : Tail} :
    (Node.array items tail).Readable (depth + 1) ↔
      (∀ item ∈ items, item.Readable depth) ∧ tail = .closed := by
  constructor
  · intro h
    cases h with
    | array readable => exact ⟨readable, rfl⟩
  · rintro ⟨h, rfl⟩
    exact .array h

@[simp] lemma readable_object {depth : Nat} {members : List Member} {tail : Tail} :
    (Node.object members tail).Readable (depth + 1) ↔
      (∀ m ∈ members, m.1.isSome ∧ m.2.Readable depth) ∧ tail = .closed := by
  constructor
  · intro h
    cases h with
    | object keys values => exact ⟨fun m hm => ⟨keys m hm, values m hm⟩, rfl⟩
  · rintro ⟨h, rfl⟩
    exact .object (fun m hm => (h m hm).1) fun m hm => (h m hm).2

mutual

theorem readAny_eq_ok_iff (depth : Nat) (node : Node) :
    readAny (depth + 1) node = .ok () ↔ node.Readable depth := by
  cases node with
  | null => simp [readAny, Readable.null]
  | bool b => simp [readAny, Readable.bool]
  | number value => cases value with
    | none => constructor <;> rintro ⟨⟩
    | some n => simp [readAny, Readable.number]
  | string text => cases text with
    | none => constructor <;> rintro ⟨⟩
    | some text => simp [readAny, Readable.string]
  | array items tail => cases depth with
    | zero => constructor <;> rintro ⟨⟩
    | succ depth =>
      rw [readAny, if_neg (by omega), then_eq_ok_iff, Nat.add_sub_cancel,
        readAll_eq_ok_iff depth items, Tail.read_eq_ok_iff, readable_array]
  | object members tail => cases depth with
    | zero => constructor <;> rintro ⟨⟩
    | succ depth =>
      rw [readAny, if_neg (by omega), then_eq_ok_iff, Nat.add_sub_cancel,
        readMembers_eq_ok_iff depth members, Tail.read_eq_ok_iff, readable_object]
  | broken flaw => constructor <;> rintro ⟨⟩

theorem readAll_eq_ok_iff (depth : Nat) (items : List Node) :
    readAll (depth + 1) items = .ok () ↔ ∀ item ∈ items, item.Readable depth := by
  cases items with
  | nil => simp [readAll]
  | cons item items =>
    rw [readAll, then_eq_ok_iff, readAny_eq_ok_iff depth item, readAll_eq_ok_iff depth items,
      List.forall_mem_cons]

theorem readMembers_eq_ok_iff (depth : Nat) (members : List (Option (List Char) × Node)) :
    readMembers (depth + 1) members = .ok () ↔ ∀ m ∈ members, m.1.isSome ∧ m.2.Readable depth := by
  cases members with
  | nil => simp [readMembers]
  | cons m members =>
    obtain ⟨_ | key, node⟩ := m
    · simp [readMembers]
    · rw [readMembers, then_eq_ok_iff, readAny_eq_ok_iff depth node,
        readMembers_eq_ok_iff depth members, List.forall_mem_cons]
      simp

end

lemma mismatch_ne_ok {α : Type} {expected : String} {node : Node} {a : α} :
    node.mismatch expected ≠ .ok a := by
  unfold mismatch
  split <;> rintro ⟨⟩

lemma text_eq_ok_iff {node : Node} {s : String} :
    node.text = .ok s ↔ node = .string (some s.toList) := by
  unfold text
  split
  · rename_i text
    simp only [Except.ok.injEq, string.injEq, Option.some.injEq]
    constructor
    · rintro rfl
      rw [String.toList_ofList]
    · rintro rfl
      rw [String.ofList_toList]
  · rename_i other
    constructor
    · intro h
      exact absurd h mismatch_ne_ok
    · rintro rfl
      exact absurd rfl (other _)

lemma optional_some_eq_ok_iff {α : Type} {read : Node → Reading α} {node : Node} {a : α}
    (typed : ∀ b, read .null ≠ .ok b) : optional read node = .ok (some a) ↔ read node = .ok a := by
  unfold optional
  split
  · simp [typed]
  · rw [map_eq_ok_iff]
    simp

def ofText : Option String → Node
  | none => .null
  | some s => .string (some s.toList)

lemma whole_ofText (text : Option String) : (ofText text).Whole := by
  cases text with
  | none => exact .null
  | some s => exact .string _

lemma optional_text_eq_ok_iff {node : Node} {text : Option String} :
    optional Node.text node = .ok text ↔ node = ofText text := by
  unfold optional
  split
  · cases text <;> simp [ofText]
  · rename_i filled
    cases h : node.text with
    | error fault =>
      cases text with
      | none => simpa [ofText, Except.map] using filled
      | some s =>
        have other : node ≠ .string (some s.toList) := by
          intro h'
          cases h.symm.trans (text_eq_ok_iff.mpr h')
        simpa [ofText, Except.map] using other
    | ok s =>
      obtain rfl := text_eq_ok_iff.mp h
      cases text with
      | none => simp [ofText, Except.map]
      | some t => simp [ofText, Except.map, String.toList_inj]

end Node

open Node

variable {α σ : Type} {read : Node → Reading α} {node : Node} {values : List Node}
variable {found found' : Option α}

def valuesOf (name : String) (members : List Member) : List Node :=
  (members.filter (·.1 = some name.toList)).map Prod.snd

@[simp] lemma valuesOf_nil (name : String) : valuesOf name [] = [] := rfl

lemma valuesOf_one (name : String) (key : List Char) (node : Node) :
    valuesOf name [(some key, node)] = if String.ofList key = name then [node] else [] := by
  by_cases h : String.ofList key = name
  · subst h
    simp [valuesOf]
  · have other : key ≠ name.toList := by
      rintro rfl
      exact h String.ofList_toList
    simp [valuesOf, h, other]

lemma valuesOf_append (name : String) (front back : List Member) :
    valuesOf name (front ++ back) = valuesOf name front ++ valuesOf name back := by
  simp [valuesOf]

def PassesOver (names : List String) (passable : Node → Prop) (members : List Member) : Prop :=
  ∀ m ∈ members, ∃ key, m.1 = some key ∧ (String.ofList key ∉ names → passable m.2)

@[simp] lemma passesOver_nil (names : List String) (passable : Node → Prop) :
    PassesOver names passable [] := by
  intro m hm
  cases hm

variable {names : List String} {passable : Node → Prop} {key : List Char} {members : List Member}

lemma not_passesOver_none : ¬ PassesOver names passable [(none, node)] := by
  intro h
  obtain ⟨key, ⟨⟩, -⟩ := h _ List.mem_cons_self

lemma passesOver_one : PassesOver names passable [(some key, node)] ↔
    (String.ofList key ∉ names → passable node) := by
  simp [PassesOver]

lemma passesOver_append {front back : List Member} :
    PassesOver names passable (front ++ back) ↔
      PassesOver names passable front ∧ PassesOver names passable back :=
  List.forall_mem_append

theorem PassesOver.whole (h : PassesOver names Whole members)
    (named : ∀ name ∈ names, ∀ value ∈ valuesOf name members, value.Whole) :
    ∀ m ∈ members, m.2.Whole := by
  rintro ⟨key, node⟩ hm
  obtain ⟨key, rfl, other⟩ := h _ hm
  by_cases hk : String.ofList key ∈ names
  · refine named _ hk node (List.mem_map.mpr ⟨_, List.mem_filter.mpr ⟨hm, ?_⟩, rfl⟩)
    simp
  · exact other hk

inductive Filled (read : Node → Reading α) : List Node → Option α → Option α → Prop
  | none (found : Option α) : Filled read [] found found
  | one {node : Node} {a : α} (h : read node = .ok a) : Filled read [node] none (some a)

lemma within_eq_ok_iff {path : Path} {reading : Reading α} {a : α} :
    Reading.within path reading = .ok a ↔ reading = .ok a := by
  cases reading with
  | error fault => cases fault <;> simp [Reading.within]
  | ok b => rfl

lemma required_eq_ok_iff {name : String} {a : α} : required name found = .ok a ↔ found = some a := by
  cases found <;> simp [required, Misfit.fail]

lemma fill_eq_ok_iff {name : String} :
    fill name read node found = .ok found' ↔
      found = none ∧ ∃ a, read node = .ok a ∧ some a = found' := by
  cases found with
  | some a => simp [fill, Misfit.fail]
  | none => simp [fill, map_eq_ok_iff, within_eq_ok_iff]

@[simp] lemma filled_nil : Filled read [] found found' ↔ found = found' := by
  constructor
  · rintro ⟨⟩
    rfl
  · rintro rfl
    exact .none found

lemma filled_none_iff : Filled read values none found ↔
    values = [] ∧ found = none ∨ ∃ node a, values = [node] ∧ read node = .ok a ∧ found = some a := by
  constructor
  · intro h
    cases h with
    | none => exact .inl ⟨rfl, rfl⟩
    | one h => exact .inr ⟨_, _, rfl, h, rfl⟩
  · rintro (⟨rfl, rfl⟩ | ⟨node, a, rfl, h, rfl⟩)
    · exact .none _
    · exact .one h

lemma filled_text {text : Option String} : Filled Node.text values none text ↔
    values = [] ∧ text = none ∨ ∃ s, values = [.string (some s.toList)] ∧ text = some s := by
  simp only [filled_none_iff, text_eq_ok_iff]
  constructor
  · rintro (absent | ⟨_, s, one, rfl, filled⟩)
    · exact .inl absent
    · exact .inr ⟨s, one, filled⟩
  · rintro (absent | ⟨s, one, filled⟩)
    · exact .inl absent
    · exact .inr ⟨_, s, one, rfl, filled⟩

lemma filled_optional_text {text : Option (Option String)} :
    Filled (Node.optional Node.text) values none text ↔
      values = [] ∧ text = none ∨ ∃ t, values = [.ofText t] ∧ text = some t := by
  simp only [filled_none_iff, optional_text_eq_ok_iff]
  constructor
  · rintro (absent | ⟨_, t, one, rfl, filled⟩)
    · exact .inl absent
    · exact .inr ⟨t, one, filled⟩
  · rintro (absent | ⟨t, one, filled⟩)
    · exact .inl absent
    · exact .inr ⟨_, t, one, rfl, filled⟩

lemma filled_one (name : String) :
    Filled read [node] found found' ↔ fill name read node found = .ok found' := by
  rw [fill_eq_ok_iff]
  constructor
  · rintro ⟨⟩
    exact ⟨rfl, _, ‹_›, rfl⟩
  · rintro ⟨rfl, a, h, rfl⟩
    exact .one h

lemma filled_append {front back : List Node} : Filled read (front ++ back) found found' ↔
    ∃ mid, Filled read front found mid ∧ Filled read back mid found' := by
  constructor
  · intro h
    -- a value in front leaves none behind, since there is one at most
    rcases front with _ | ⟨value, front⟩
    · exact ⟨found, .none found, h⟩
    · generalize hv : value :: front ++ back = values at h
      cases h with
      | none => cases hv
      | one h =>
        obtain ⟨rfl, nothing⟩ := List.cons.inj hv
        obtain ⟨rfl, rfl⟩ := List.append_eq_nil_iff.mp nothing
        exact ⟨_, .one h, .none _⟩
  · rintro ⟨mid, first, second⟩
    cases first with
    | none => exact second
    | one h =>
      cases second
      exact .one h

variable {visit : σ → String → Node → Reading σ} {s s' : σ}

lemma visitMembers_cons_eq_ok_iff : visitMembers visit s ((some key, node) :: members) = .ok s' ↔
    ∃ mid, visit s (String.ofList key) node = .ok mid ∧ visitMembers visit mid members = .ok s' := by
  cases h : visit s (String.ofList key) node with
  | error fault => simp [visitMembers, h]
  | ok mid => simp [visitMembers, h]

structure Accumulates (Takes : List Member → σ → σ → Prop) : Prop where
  nil (s s' : σ) : Takes [] s s' ↔ s = s'
  append (front back : List Member) (s s' : σ) :
    Takes (front ++ back) s s' ↔ ∃ mid, Takes front s mid ∧ Takes back mid s'
  key (node : Node) (s s' : σ) : ¬ Takes [(none, node)] s s'

theorem visitMembers_iff {Takes : List Member → σ → σ → Prop} (h : Accumulates Takes)
    (one : ∀ key node s s', visit s (String.ofList key) node = .ok s' ↔ Takes [(some key, node)] s s') :
    visitMembers visit s members = .ok s' ↔ Takes members s s' := by
  induction members generalizing s with
  | nil => simp [visitMembers, h.nil]
  | cons m members ih =>
    rw [← List.singleton_append, h.append, List.singleton_append]
    obtain ⟨_ | key, node⟩ := m
    · simp [visitMembers, Break.fail, h.key]
    · simp only [visitMembers_cons_eq_ok_iff, one, ih]

lemma fit_eq_ok_iff {width : Width} {n m : Int} {number : Number} :
    width.fit n number = .ok m ↔ (width.least ≤ n ∧ n ≤ width.greatest) ∧ n = m := by
  rw [Width.fit]
  split
  · rename_i fits
    simp [fits]
  · rename_i misfit
    simp [misfit, Misfit.fail]

lemma ofBreak_eq_ok_iff {x : Except Break Unit} :
    ((Reading.ofBreak x).map fun _ => s) = .ok s' ↔ x = .ok () ∧ s = s' := by
  cases x with
  | error b => simp [Reading.ofBreak, Break.fail, Except.map]
  | ok u => simp [Reading.ofBreak, Except.map]

lemma visitObject_eq_ok_iff {tail : Tail} : visitObject visit s members tail = .ok s' ↔
    visitMembers visit s members = .ok s' ∧ tail = .closed := by
  unfold visitObject
  cases h : visitMembers visit s members with
  | error fault => simp
  | ok mid =>
    simp only [ofBreak_eq_ok_iff, Tail.read_eq_ok_iff, Except.ok.injEq]
    exact and_comm

lemma optionalItem_eq_ok_iff {otherwise a : α} {items : List Node} {tail : Tail} {n : Nat} :
    optionalItem otherwise read items tail n = .ok a ↔
      (∃ node, items[n]? = some node ∧ read node = .ok a) ∨
        items[n]? = none ∧ tail = .closed ∧ otherwise = a := by
  rw [optionalItem, bind_eq_ok_iff, itemAt?]
  cases items[n]? with
  | none =>
    simp only [ofBreak_eq_ok_iff, Tail.read_eq_ok_iff]
    constructor
    · rintro ⟨_, ⟨rfl, rfl⟩, h⟩
      exact .inr ⟨trivial, rfl, Except.ok.inj h⟩
    · rintro (⟨_, ⟨⟩, -⟩ | ⟨-, rfl, rfl⟩)
      · exact ⟨_, ⟨rfl, rfl⟩, rfl⟩
  | some node => simp [within_eq_ok_iff]

lemma requiredItem_eq_ok_iff {expected : Misfit} {a : α} {items : List Node} {tail : Tail} {n : Nat} :
    requiredItem expected read items tail n = .ok a ↔
      ∃ node, items[n]? = some node ∧ read node = .ok a := by
  rw [requiredItem, bind_eq_ok_iff, itemAt?]
  cases items[n]? with
  | none => simp [ofBreak_eq_ok_iff, Misfit.fail]
  | some node => simp [within_eq_ok_iff]

lemma endArray_eq_ok_iff {count : Nat} {items : List Node} {tail : Tail} {u : Unit} :
    endArray count items tail = .ok u ↔ items.length ≤ count ∧ tail = .closed := by
  cases tail with
  | closed => simp [endArray, Break.fail]
  | bare flaw =>
    rw [endArray]
    split <;> simp [Break.fail]
  | comma flaw => simp [endArray, Break.fail]

end RegistryLogin.Json
