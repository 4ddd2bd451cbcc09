import RegistryLogin.Json.Reading
import RegistryLogin.Proofs.Json.Scanning

/-! Trees and the texts that they are read from. -/

namespace RegistryLogin.Json

namespace Node

/-- The text of the value reads to its end. Its strings need be no texts, nor its numbers in range. -/
inductive Whole : Node → Prop
  | null : Whole .null
  | bool (b : Bool) : Whole (.bool b)
  | number (value : Option Number) : Whole (.number value)
  | string (text : Option (List Char)) : Whole (.string text)
  | array {items : List Node} (h : ∀ item ∈ items, Whole item) : Whole (.array items .closed)
  | object {members : List Member} (h : ∀ m ∈ members, Whole m.2) : Whole (.object members .closed)

mutual

def write : Node → List Token
  | .null => [.null]
  | .bool b => [.bool b]
  | .number value => [.number value]
  | .string text => [.string text]
  | .array [] _ => [.openArray, .closeArray]
  | .array (item :: items) _ => .openArray :: (item.write ++ writeItems items)
  | .object [] _ => [.openObject, .closeObject]
  | .object ((key, node) :: members) _ =>
    .openObject :: .string key :: .colon :: (node.write ++ writeMembers members)
  | .broken _ => []

def writeItems : List Node → List Token
  | [] => [.closeArray]
  | item :: items => .comma :: (item.write ++ writeItems items)

def writeMembers : List (Option (List Char) × Node) → List Token
  | [] => [.closeObject]
  | (key, node) :: members =>
    .comma :: .string key :: .colon :: (node.write ++ writeMembers members)

end

variable {node whole : Node} {items before : List Node} {members done : List Member}
variable {stack : List Frame} {token : Token} {tokens : List Token} {trailing : Bool}

def Place.opensValue : Place → Bool
  | .value | .firstItem | .item => true
  | _ => false

lemma foldl_writeItems (h : ∀ item ∈ items, ∀ stack,
      item.write.foldl step (.reading .item stack) = deliver item stack) (done : List Node)
    (stack : List Frame) : (writeItems items).foldl step (.reading .afterItem (.array done :: stack)) =
      deliver (.array (done.reverse ++ items) .closed) stack := by
  induction items generalizing done with
  | nil => simp [writeItems, step, finishFrame, Frame.ending]
  | cons item items ih =>
    obtain ⟨first, further⟩ := List.forall_mem_cons.mp h
    have next : step (.reading .afterItem (.array done :: stack)) .comma =
      .reading .item (.array done :: stack) := rfl
    rw [writeItems, List.foldl_cons, next, List.foldl_append, first, deliver, ih further]
    simp

lemma foldl_writeMembers (h : ∀ m ∈ members, ∀ stack,
      m.2.write.foldl step (.reading .value stack) = deliver m.2 stack) (done : List Member)
    (stack : List Frame) :
    (writeMembers members).foldl step (.reading .afterMember (.object done :: stack)) =
      deliver (.object (done.reverse ++ members) .closed) stack := by
  induction members generalizing done with
  | nil => simp [writeMembers, step, finishFrame, Frame.ending]
  | cons m members ih =>
    obtain ⟨key, node⟩ := m
    obtain ⟨first, further⟩ := List.forall_mem_cons.mp h
    have next : step (step (step (.reading .afterMember (.object done :: stack)) .comma) (.string key))
      .colon = .reading .value (.member done key :: stack) := rfl
    rw [writeMembers, List.foldl_cons, List.foldl_cons, List.foldl_cons, next, List.foldl_append, first,
      deliver, ih further]
    simp

theorem foldl_write (h : node.Whole) {place : Place} (opens : place.opensValue = true)
    (stack : List Frame) : node.write.foldl step (.reading place stack) = deliver node stack := by
  induction h generalizing place stack with
  | null => cases place <;> first | rfl | cases opens
  | bool b => cases place <;> first | rfl | cases opens
  | number value => cases place <;> first | rfl | cases opens
  | string text => cases place <;> first | rfl | cases opens
  | @array items _ ih =>
    have enter : step (.reading place stack) .openArray = .reading .firstItem (.array [] :: stack) := by
      cases place <;> first | rfl | cases opens
    cases items with
    | nil =>
      rw [write, List.foldl_cons, enter]
      rfl
    | cons item items =>
      obtain ⟨first, further⟩ := List.forall_mem_cons.mp ih
      rw [write, List.foldl_cons, enter, List.foldl_append, first rfl, deliver]
      exact foldl_writeItems (fun item hi stack => further item hi rfl stack) [item] stack
  | @object members _ ih =>
    have enter : step (.reading place stack) .openObject =
        .reading .firstKey (.object [] :: stack) := by
      cases place <;> first | rfl | cases opens
    cases members with
    | nil =>
      rw [write, List.foldl_cons, enter]
      rfl
    | cons m members =>
      obtain ⟨key, node⟩ := m
      obtain ⟨first, further⟩ := List.forall_mem_cons.mp ih
      have next : step (step (.reading .firstKey (.object [] :: stack)) (.string key)) .colon =
        .reading .value (.member [] key :: stack) := rfl
      rw [write, List.foldl_cons, enter, List.foldl_cons, List.foldl_cons, next, List.foldl_append,
        first rfl, deliver]
      exact foldl_writeMembers (fun m hm stack => further m hm rfl stack) [(key, node)] stack

lemma write_ne_nil (h : node.Whole) : node.write ≠ [] := by
  cases h with
  | null => simp [write]
  | bool b => simp [write]
  | number value => simp [write]
  | string text => simp [write]
  | @array items => cases items <;> simp [write]
  | @object members => cases members <;> simp [write]

def Reader.Leads (reader : Reader) (tokens : List Token) (node : Node) : Prop :=
  ∃ trailing, tokens.foldl step reader = .complete node trailing

lemma leads_complete (node : Node) (trailing : Bool) (tokens : List Token) :
    (Reader.complete node trailing).Leads tokens node := by
  induction tokens generalizing trailing with
  | nil => exact ⟨trailing, rfl⟩
  | cons token tokens ih => exact ih _

lemma Reader.Leads.eq_of_complete (h : (Reader.complete node trailing).Leads tokens whole) :
    node = whole := by
  obtain ⟨_, read⟩ := leads_complete node trailing tokens
  obtain ⟨_, read'⟩ := h
  exact (Reader.complete.inj (read.symm.trans read')).1

lemma startMember_or (token : Token) (tail : Flaw → Tail) (stack : List Frame) :
    (∃ key, token = .string key) ∨
      ∃ flaw, startMember token tail stack = finishFrame (tail flaw) stack := by
  cases token with
  | string key => exact .inl ⟨key, rfl⟩
  | brokenText flaw => exact .inr ⟨flaw, rfl⟩
  | finish => exact .inr ⟨.both .ended, rfl⟩
  | _ => exact .inr ⟨.both .malformed, rfl⟩

section

variable (hw : whole.Whole)
include hw

lemma whole_of_abandon {flaw : Flaw} (h : (abandon flaw node stack).Leads tokens whole) :
    node.Whole := by
  -- a frame that is broken off is broken itself, so the outermost value would be
  induction stack generalizing node with
  | nil =>
    obtain rfl : node = whole := Reader.Leads.eq_of_complete h
    exact hw
  | cons frame stack ih =>
    have broken : (frame.broken flaw node).Whole := ih h
    cases frame <;> cases broken

lemma closed_of_finishFrame {tail : Tail} (h : (finishFrame tail stack).Leads tokens whole) :
    tail = .closed := by
  cases stack with
  | nil =>
    obtain rfl := Reader.Leads.eq_of_complete h
    cases hw
  | cons frame stack =>
    cases tail with
    | closed => rfl
    | bare flaw =>
      have ended := whole_of_abandon hw h
      cases frame <;> cases ended
    | comma flaw =>
      have ended := whole_of_abandon hw h
      cases frame <;> cases ended

lemma startValue_of_item (h : (step (.reading .item stack) token).Leads tokens whole) :
    (startValue token stack).Leads tokens whole := by
  cases token with
  | closeArray =>
    have h : (finishFrame (.comma (.both .malformed)) stack).Leads tokens whole := h
    cases closed_of_finishFrame hw h
  | finish =>
    have h : (finishFrame (.comma (.both .ended)) stack).Leads tokens whole := h
    cases closed_of_finishFrame hw h
  | _ => exact h

lemma startValue_of_firstItem (h : (step (.reading .firstItem stack) token).Leads tokens whole)
    (some : token ≠ .closeArray) : (startValue token stack).Leads tokens whole := by
  cases token with
  | closeArray => contradiction
  | finish =>
    have h : (finishFrame (.bare (gapOf .finish)) stack).Leads tokens whole := h
    cases closed_of_finishFrame hw h
  | _ => exact h

lemma closeArray_or_comma (h : (step (.reading .afterItem stack) token).Leads tokens whole) :
    token = .closeArray ∨ token = .comma := by
  cases token with
  | closeArray => exact .inl rfl
  | comma => exact .inr rfl
  | _ =>
    have ended : Tail.bare _ = .closed := closed_of_finishFrame hw h
    cases ended

lemma closeObject_or_comma (h : (step (.reading .afterMember stack) token).Leads tokens whole) :
    token = .closeObject ∨ token = .comma := by
  cases token with
  | closeObject => exact .inl rfl
  | comma => exact .inr rfl
  | _ =>
    have ended : Tail.bare _ = .closed := closed_of_finishFrame hw h
    cases ended

lemma colon_of_colon (h : (step (.reading .colon stack) token).Leads tokens whole) :
    token = .colon := by
  cases token with
  | colon => rfl
  | _ =>
    have ended : (Node.broken _).Whole := whole_of_abandon hw h
    cases ended

lemma key_of_startMember {tail : Flaw → Tail} (open' : ∀ flaw, tail flaw ≠ .closed)
    (h : (startMember token tail stack).Leads tokens whole) : ∃ key, token = .string key := by
  obtain key | ⟨flaw, ended⟩ := startMember_or token tail stack
  · exact key
  · rw [ended] at h
    exact absurd (closed_of_finishFrame hw h) (open' flaw)

end

structure Splits (whole : Node) (n : Nat) : Prop where
  value {token : Token} {tokens : List Token} {stack : List Frame} (short : tokens.length < n)
    (h : (startValue token stack).Leads tokens whole) :
    ∃ node rest, token :: tokens = node.write ++ rest ∧ node.Whole ∧
      (deliver node stack).Leads rest whole
  items {tokens : List Token} {done : List Node} {stack : List Frame} (short : tokens.length < n)
    (h : (Reader.reading .afterItem (.array done :: stack)).Leads tokens whole) :
    ∃ items rest, tokens = writeItems items ++ rest ∧ (∀ item ∈ items, item.Whole) ∧
      (deliver (.array (done.reverse ++ items) .closed) stack).Leads rest whole
  members {tokens : List Token} {done : List Member} {stack : List Frame} (short : tokens.length < n)
    (h : (Reader.reading .afterMember (.object done :: stack)).Leads tokens whole) :
    ∃ members rest, tokens = writeMembers members ++ rest ∧ (∀ m ∈ members, m.2.Whole) ∧
      (deliver (.object (done.reverse ++ members) .closed) stack).Leads rest whole

lemma length_le_of_write {rest : List Token} (h : node.Whole)
    (split : token :: tokens = node.write ++ rest) : rest.length ≤ tokens.length := by
  have filled := List.length_pos_iff.mpr (write_ne_nil h)
  have length := congrArg List.length split
  simp only [List.length_cons, List.length_append] at length
  omega

namespace Splits

variable {n : Nat} (hw : whole.Whole) (ih : Splits whole n)
include hw ih

lemma array (short : tokens.length ≤ n)
    (h : (Reader.reading .firstItem (.array [] :: stack)).Leads tokens whole) :
    ∃ node rest, .openArray :: tokens = node.write ++ rest ∧ node.Whole ∧
      (deliver node stack).Leads rest whole := by
  rcases tokens with _ | ⟨token, tokens⟩
  · obtain ⟨_, ⟨⟩⟩ := h
  by_cases ends : token = .closeArray
  · subst ends
    exact ⟨.array [] .closed, tokens, rfl, .array (by simp), h⟩
  · obtain ⟨item, rest, split, first, h⟩ := ih.value short (startValue_of_firstItem hw h ends)
    have left : rest.length < n := Nat.lt_of_le_of_lt (length_le_of_write first split) short
    obtain ⟨items, rest, rfl, further, h⟩ := ih.items left h
    refine ⟨.array (item :: items) .closed, rest, ?_, ?_, h⟩
    · rw [split, write]
      simp
    · exact .array (List.forall_mem_cons.mpr ⟨first, further⟩)

lemma member {tail : Flaw → Tail} (open' : ∀ flaw, tail flaw ≠ .closed) (short : tokens.length ≤ n)
    (h : (startMember token tail (.object done :: stack)).Leads tokens whole) :
    ∃ key node rest, token :: tokens = .string key :: .colon :: (node.write ++ rest) ∧ node.Whole ∧
      rest.length < n ∧
      (Reader.reading .afterMember (.object ((key, node) :: done) :: stack)).Leads rest whole := by
  obtain ⟨key, rfl⟩ := key_of_startMember hw open' h
  rcases tokens with _ | ⟨next, _ | ⟨token, tokens⟩⟩
  · obtain ⟨_, ⟨⟩⟩ := h
  · obtain rfl := colon_of_colon hw h
    obtain ⟨_, ⟨⟩⟩ := h
  · obtain rfl := colon_of_colon hw h
    have shorter : tokens.length < n := Nat.lt_of_succ_lt short
    obtain ⟨node, rest, split, value, h⟩ := ih.value shorter h
    have left := length_le_of_write value split
    exact ⟨key, node, rest, by rw [split], value, Nat.lt_of_le_of_lt left shorter, h⟩

lemma object (short : tokens.length ≤ n)
    (h : (Reader.reading .firstKey (.object [] :: stack)).Leads tokens whole) :
    ∃ node rest, .openObject :: tokens = node.write ++ rest ∧ node.Whole ∧
      (deliver node stack).Leads rest whole := by
  rcases tokens with _ | ⟨token, tokens⟩
  · obtain ⟨_, ⟨⟩⟩ := h
  by_cases ends : token = .closeObject
  · subst ends
    exact ⟨.object [] .closed, tokens, rfl, .object (by simp), h⟩
  · have h : (startMember token .bare (.object [] :: stack)).Leads tokens whole := by
      cases token <;> first | exact h | contradiction
    obtain ⟨key, node, rest, split, first, left, h⟩ :=
      ih.member hw (by simp) (Nat.le_of_succ_le short) h
    obtain ⟨members, rest, rfl, further, h⟩ := ih.members left h
    refine ⟨.object ((key, node) :: members) .closed, rest, ?_, ?_, h⟩
    · rw [split, write]
      simp
    · exact .object (List.forall_mem_cons.mpr ⟨first, further⟩)

lemma furtherItems (short : tokens.length ≤ n)
    (h : (Reader.reading .afterItem (.array before :: stack)).Leads tokens whole) :
    ∃ items rest, tokens = writeItems items ++ rest ∧ (∀ item ∈ items, item.Whole) ∧
      (deliver (.array (before.reverse ++ items) .closed) stack).Leads rest whole := by
  rcases tokens with _ | ⟨token, tokens⟩
  · obtain ⟨_, ⟨⟩⟩ := h
  obtain rfl | rfl := closeArray_or_comma hw h
  · have h : (deliver (.array before.reverse .closed) stack).Leads tokens whole := h
    exact ⟨[], tokens, rfl, by simp, by simpa using h⟩
  · rcases tokens with _ | ⟨token, tokens⟩
    · obtain ⟨_, ⟨⟩⟩ := h
    have shorter : tokens.length < n := Nat.lt_of_succ_lt short
    obtain ⟨item, rest, split, first, h⟩ := ih.value shorter (startValue_of_item hw h)
    have left : rest.length < n := Nat.lt_of_le_of_lt (length_le_of_write first split) shorter
    obtain ⟨items, rest, rfl, further, h⟩ := ih.items left h
    refine ⟨item :: items, rest, ?_, List.forall_mem_cons.mpr ⟨first, further⟩, by simpa using h⟩
    rw [split, writeItems]
    simp

lemma furtherMembers (short : tokens.length ≤ n)
    (h : (Reader.reading .afterMember (.object done :: stack)).Leads tokens whole) :
    ∃ members rest, tokens = writeMembers members ++ rest ∧ (∀ m ∈ members, m.2.Whole) ∧
      (deliver (.object (done.reverse ++ members) .closed) stack).Leads rest whole := by
  rcases tokens with _ | ⟨token, tokens⟩
  · obtain ⟨_, ⟨⟩⟩ := h
  obtain rfl | rfl := closeObject_or_comma hw h
  · have h : (deliver (.object done.reverse .closed) stack).Leads tokens whole := h
    exact ⟨[], tokens, rfl, by simp, by simpa using h⟩
  · rcases tokens with _ | ⟨token, tokens⟩
    · obtain ⟨_, ⟨⟩⟩ := h
    obtain ⟨key, node, rest, split, first, left, h⟩ :=
      ih.member hw (by simp) (Nat.le_of_lt (Nat.lt_of_succ_lt short)) h
    obtain ⟨members, rest, rfl, further, h⟩ := ih.members left h
    refine ⟨(key, node) :: members, rest, ?_, List.forall_mem_cons.mpr ⟨first, further⟩,
      by simpa using h⟩
    rw [split, writeMembers]
    simp

lemma anyValue (short : tokens.length ≤ n) (h : (startValue token stack).Leads tokens whole) :
    ∃ node rest, token :: tokens = node.write ++ rest ∧ node.Whole ∧
      (deliver node stack).Leads rest whole := by
  cases token with
  | null => exact ⟨.null, tokens, rfl, .null, h⟩
  | bool b => exact ⟨.bool b, tokens, rfl, .bool b, h⟩
  | number value => exact ⟨.number value, tokens, rfl, .number value, h⟩
  | string text => exact ⟨.string text, tokens, rfl, .string text, h⟩
  | openArray => exact ih.array hw short h
  | openObject => exact ih.object hw short h
  | _ =>
    have ended : (Node.broken _).Whole := whole_of_abandon hw h
    cases ended

omit ih in
lemma all (n : Nat) : Splits whole n := by
  -- on the tokens that are left; a value takes one at least, so what follows it has fewer
  induction n with
  | zero => constructor <;> (intros; contradiction)
  | succ n ih =>
    exact ⟨fun short => ih.anyValue hw (Nat.le_of_lt_succ short),
      fun short => ih.furtherItems hw (Nat.le_of_lt_succ short),
      fun short => ih.furtherMembers hw (Nat.le_of_lt_succ short)⟩

end Splits

theorem read_iff_write (h : node.Whole) (tokens : List Token) :
    (∃ trailing, read tokens = .complete node trailing) ↔ ∃ rest, tokens = node.write ++ rest := by
  constructor
  · intro leads
    rcases tokens with _ | ⟨token, tokens⟩
    · obtain ⟨_, ⟨⟩⟩ := leads
    have leads : (startValue token []).Leads tokens node := by cases token <;> exact leads
    obtain ⟨first, rest, split, -, complete⟩ :=
      (Splits.all h (tokens.length + 1)).value (Nat.lt_succ_self _) leads
    obtain rfl := Reader.Leads.eq_of_complete complete
    exact ⟨rest, split⟩
  · rintro ⟨rest, rfl⟩
    obtain ⟨trailing, further⟩ := leads_complete node false rest
    refine ⟨trailing, ?_⟩
    rw [read, List.foldl_append, foldl_write h rfl]
    exact further

def isNested : Node → Bool
  | .array _ _ | .object _ _ => true
  | _ => false

lemma writeItems_ends (items : List Node) : ∃ front, writeItems items = front ++ [.closeArray] := by
  induction items with
  | nil => exact ⟨[], rfl⟩
  | cons item items ih =>
    obtain ⟨front, ends⟩ := ih
    exact ⟨.comma :: (item.write ++ front), by simp [writeItems, ends]⟩

lemma writeMembers_ends (members : List Member) :
    ∃ front, writeMembers members = front ++ [.closeObject] := by
  induction members with
  | nil => exact ⟨[], rfl⟩
  | cons m members ih =>
    obtain ⟨key, node⟩ := m
    obtain ⟨front, ends⟩ := ih
    exact ⟨.comma :: .string key :: .colon :: (node.write ++ front), by simp [writeMembers, ends]⟩

lemma write_ends (h : node.isNested = true) :
    ∃ front bracket, node.write = front ++ [bracket] ∧ bracket.closes = true := by
  cases node with
  | array items tail =>
    cases items with
    | nil => exact ⟨[.openArray], .closeArray, rfl, rfl⟩
    | cons item items =>
      obtain ⟨front, ends⟩ := writeItems_ends items
      exact ⟨.openArray :: (item.write ++ front), .closeArray, by simp [write, ends], rfl⟩
  | object members tail =>
    cases members with
    | nil => exact ⟨[.openObject], .closeObject, rfl, rfl⟩
    | cons m members =>
      obtain ⟨key, node⟩ := m
      obtain ⟨front, ends⟩ := writeMembers_ends members
      exact ⟨.openObject :: .string key :: .colon :: (node.write ++ front), .closeObject,
        by simp [write, ends], rfl⟩
  | _ => cases h

end Node

/-- The text is one value, with nothing but white space around its tokens. -/
structure Spells (text : Text.Bytes) (node : Node) : Prop where
  whole : node.Whole
  written : tokens text = node.write ++ [.finish]

theorem ofBytes_iff_write {node : Node} (h : node.Whole) (bytes : Text.Bytes) :
    (Document.ofBytes bytes).node = node ↔ ∃ rest, tokens bytes = node.write ++ rest := by
  rw [← Node.read_iff_write h]
  unfold Document.ofBytes
  split
  · rename_i found trailing complete
    rw [complete]
    constructor
    · rintro rfl
      exact ⟨trailing, rfl⟩
    · rintro ⟨_, same⟩
      exact (Node.Reader.complete.inj same).1
  · rename_i place stack reading
    rw [reading]
    constructor
    · rintro rfl
      cases h
    · rintro ⟨_, ⟨⟩⟩

theorem ofBytes_iff_spells {node : Node} (h : node.isNested = true) (bytes : Text.Bytes) :
    (Document.ofBytes bytes).node = node ∧ node.Whole ↔
      ∃ text rest, bytes = text ++ rest ∧ Spells text node := by
  obtain ⟨front, bracket, ends, closes⟩ := Node.write_ends h
  constructor
  · rintro ⟨first, whole⟩
    obtain ⟨behind, written⟩ := (ofBytes_iff_write whole bytes).mp first
    rw [ends, List.append_assoc] at written
    obtain ⟨text, rest, rfl, -, same⟩ := tokens_cut written closes
    refine ⟨text, rest, rfl, whole, ?_⟩
    have nothing : tokens [] = [.finish] := by rw [tokens]
    rw [← List.append_nil text, same, nothing, ends, List.append_assoc]
    rfl
  · rintro ⟨text, rest, rfl, whole, written⟩
    refine ⟨(ofBytes_iff_write whole _).mpr ?_, whole⟩
    rw [ends, List.append_assoc] at written
    obtain ⟨text, space, rfl, -, same⟩ := tokens_cut written closes
    refine ⟨tokens (space ++ rest), ?_⟩
    rw [List.append_assoc, same, ends, List.append_assoc]
    rfl

/-- What holds of whole arrays and objects only, holds of the first value just when the bytes begin
with the text of one. -/
theorem firstValue_iff {P : Node → Prop} (h : ∀ node, P node → node.isNested = true ∧ node.Whole)
    (bytes : Text.Bytes) : P (Document.ofBytes bytes).node ↔
      ∃ text rest node, bytes = text ++ rest ∧ Spells text node ∧ P node := by
  constructor
  · intro first
    obtain ⟨nested, whole⟩ := h _ first
    obtain ⟨text, rest, split, spells⟩ := (ofBytes_iff_spells nested bytes).mp ⟨rfl, whole⟩
    exact ⟨text, rest, _, split, spells, first⟩
  · rintro ⟨text, rest, node, split, spells, found⟩
    rwa [((ofBytes_iff_spells (h node found).1 bytes).mpr ⟨text, rest, split, spells⟩).1]

end RegistryLogin.Json
