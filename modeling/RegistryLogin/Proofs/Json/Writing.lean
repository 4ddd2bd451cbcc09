import RegistryLogin.Proofs.Json.Trees
import RegistryLogin.Proofs.Text.Encoding

namespace RegistryLogin

open Text

lemma Text.Utf8.ofString_append (s t : String) :
    Utf8.ofString (s ++ t) = Utf8.ofString s ++ Utf8.ofString t := by
  rw [Utf8.ofString, String.toList_append, Utf8.encode_append]
  rfl

namespace Json

variable {b d : UInt8} {bytes rest : Bytes} {c e : Char} {cs ds : List Char}
variable {us vs : List Unit16} {n : Nat}

def Body.prepend (units : List Unit16) (body : Body) : Body := ⟨units ++ body.units, body.stop⟩

structure Escapes (cs : List Char) (units : List Unit16) : Prop where
  scans (next : Bytes) :
    scanString (Utf8.encode (cs.flatMap escapeChar) ++ next) = (scanString next).prepend units
  reads (more : List Unit16) : unitBytes? (units ++ more) = (unitBytes? more).map (Utf8.encode cs ++ ·)

namespace Escapes

lemma nil : Escapes [] [] where
  scans next := rfl
  reads more := by cases h : unitBytes? more <;> simp [Utf8.encode, h]

lemma append (h : Escapes cs us) (h' : Escapes ds vs) : Escapes (cs ++ ds) (us ++ vs) where
  scans next := by
    rw [List.flatMap_append, Utf8.encode_append, List.append_assoc, h.scans, h'.scans]
    simp only [Body.prepend, List.append_assoc]
  reads more := by
    rw [List.append_assoc, h.reads, h'.reads, Option.map_map, Utf8.encode_append]
    congr 1
    funext bytes
    simp

lemma short (written : escapeChar c = ['\\', e]) (letter : String.utf8EncodeChar e = [d])
    (named : d ≠ 0x75) (meant : escapedByte? d = some b) (own : String.utf8EncodeChar c = [b]) :
    Escapes [c] [.byte b] where
  scans next := by
    have bytes : Utf8.encode ([c].flatMap escapeChar) = [0x5C, d] := by
      rw [List.flatMap_singleton, written, Utf8.encode, List.flatMap_cons, List.flatMap_singleton, letter]
      rfl
    rw [bytes]
    exact scanString_escape named meant next
  reads more := by simp [unitBytes?, Utf8.encode, own]

lemma lowerHexDigit_value (h : n < 16) :
    ∃ d, String.utf8EncodeChar (lowerHexDigit n) = [d] ∧ hexByte? d = some n := by
  have digits : ∀ n < 16,
      String.utf8EncodeChar (lowerHexDigit n) = [UInt8.ofNat (lowerHexDigit n).toNat] ∧
        hexByte? (UInt8.ofNat (lowerHexDigit n).toNat) = some n := by
    decide +kernel
  exact ⟨_, digits n h⟩

lemma control (h : c.toNat < 0x20) (written : escapeChar c =
      ['\\', 'u', '0', '0', lowerHexDigit (c.toNat / 16), lowerHexDigit (c.toNat % 16)]) :
    Escapes [c] [.escape c.toNat] where
  scans next := by
    obtain ⟨high, highByte, highValue⟩ := lowerHexDigit_value (n := c.toNat / 16) (by omega)
    obtain ⟨low, lowByte, lowValue⟩ := lowerHexDigit_value (n := c.toNat % 16) (by omega)
    have bytes : Utf8.encode ([c].flatMap escapeChar) = [0x5C, 0x75, 0x30, 0x30, high, low] := by
      rw [List.flatMap_singleton, written]
      simp only [Utf8.encode, List.flatMap_cons, List.flatMap_nil, highByte, lowByte]
      rfl
    have zero : hexByte? 0x30 = some 0 := by decide
    have unit : ((0 * 16 + 0) * 16 + c.toNat / 16) * 16 + c.toNat % 16 = c.toNat := by omega
    rw [bytes]
    have taken := scanString_unicode zero zero highValue lowValue next
    rw [unit] at taken
    exact taken
  reads more := by
    have trail : isTrail c.toNat = false := by simp [isTrail]; omega
    have lead : isLead c.toNat = false := by simp [isLead]; omega
    rw [List.singleton_append, unitBytes?.eq_def]
    simp [trail, lead, Utf8.encode]

lemma verbatim (h : ∀ b ∈ bytes, b ≠ 0x22 ∧ b ≠ 0x5C ∧ ¬ b.toNat < 0x20) (next : Bytes) :
    scanString (bytes ++ next) = (scanString next).prepend (bytes.map .byte) := by
  induction bytes with
  | nil => rfl
  | cons b bytes ih =>
    obtain ⟨⟨quote, escape, visible⟩, further⟩ := List.forall_mem_cons.mp h
    rw [List.cons_append, scanString_byte quote escape visible, ih further]
    rfl

lemma unitBytes?_bytes (bytes : Bytes) (more : List Unit16) :
    unitBytes? (bytes.map .byte ++ more) = (unitBytes? more).map (bytes ++ ·) := by
  induction bytes with
  | nil => cases h : unitBytes? more <;> simp [h]
  | cons b bytes ih =>
    rw [List.map_cons, List.cons_append, unitBytes?, ih, Option.map_map]
    rfl

lemma bytes_verbatim (quote : c ≠ '"') (escape : c ≠ '\\') (visible : ¬ c.toNat < 0x20) :
    ∀ b ∈ String.utf8EncodeChar c, b ≠ 0x22 ∧ b ≠ 0x5C ∧ ¬ b.toNat < 0x20 := by
  have high {b : UInt8} (h : 0x80 ≤ b.toNat) : b ≠ 0x22 ∧ b ≠ 0x5C ∧ ¬ b.toNat < 0x20 := by
    refine ⟨?_, ?_, by omega⟩
    · rintro rfl
      exact absurd h (by decide)
    · rintro rfl
      exact absurd h (by decide)
  obtain ⟨b, more, bytes, forms⟩ := Utf8.exists_forms c
  rw [bytes]
  cases forms with
  | one hb hc =>
    have own : c = Char.ofNat b.toNat := by rw [← hc, Char.ofNat_toNat]
    refine List.forall_mem_singleton.mpr ⟨?_, ?_, by omega⟩
    · rintro rfl
      exact quote own
    · rintro rfl
      exact escape own
  | two hb hd hc =>
    have second := Utf8.admitsSecond_iff.mp hd
    simp only [List.forall_mem_cons]
    exact ⟨high (by omega), high (by omega), by simp⟩
  | three hb hd he hc =>
    have second := Utf8.admitsSecond_iff.mp hd
    have third := Utf8.isContinuation_iff.mp he
    simp only [List.forall_mem_cons]
    exact ⟨high (by omega), high (by omega), high (by omega), by simp⟩
  | four hb hd he hf hc =>
    have second := Utf8.admitsSecond_iff.mp hd
    have third := Utf8.isContinuation_iff.mp he
    have fourth := Utf8.isContinuation_iff.mp hf
    simp only [List.forall_mem_cons]
    exact ⟨high (by omega), high (by omega), high (by omega), high (by omega), by simp⟩

def shortEscapes : List Nat := [0x22, 0x5C, 0x08, 0x09, 0x0A, 0x0C, 0x0D]

lemma exists_short (h : c.toNat ∈ shortEscapes) : ∃ units, Escapes [c] units := by
  have named : ∀ n ∈ shortEscapes, ∃ units, Escapes [Char.ofNat n] units := by
    simp only [shortEscapes, List.forall_mem_cons]
    refine ⟨?_, ?_, ?_, ?_, ?_, ?_, ?_, by simp⟩
    all_goals exact ⟨_, short rfl rfl (by decide) rfl rfl⟩
  rw [← Char.ofNat_toNat c]
  exact named c.toNat h

theorem exists_one (c : Char) : ∃ units, Escapes [c] units := by
  by_cases named : c.toNat ∈ shortEscapes
  · exact exists_short named
  simp only [shortEscapes, List.mem_cons, not_or] at named
  obtain ⟨quote, escape, h₁, h₂, h₃, h₄, h₅, -⟩ := named
  have quote : c ≠ '"' := by
    rintro rfl
    exact quote rfl
  have escape : c ≠ '\\' := by
    rintro rfl
    exact escape rfl
  by_cases h : c.toNat < 0x20
  · refine ⟨_, control h ?_⟩
    rw [escapeChar, if_neg quote, if_neg escape, if_neg h₁, if_neg h₂, if_neg h₃, if_neg h₄, if_neg h₅,
      if_pos h]
  · have written : escapeChar c = [c] := by
      rw [escapeChar, if_neg quote, if_neg escape, if_neg h₁, if_neg h₂, if_neg h₃, if_neg h₄, if_neg h₅,
        if_neg h]
    refine ⟨(String.utf8EncodeChar c).map .byte, ?_, ?_⟩
    · intro next
      rw [List.flatMap_singleton, written, Utf8.encode, List.flatMap_singleton]
      exact verbatim (bytes_verbatim quote escape h) next
    · intro more
      rw [unitBytes?_bytes, Utf8.encode, List.flatMap_singleton]

theorem exists_all (cs : List Char) : ∃ units, Escapes cs units := by
  induction cs with
  | nil => exact ⟨[], nil⟩
  | cons c cs ih =>
    obtain ⟨units, first⟩ := exists_one c
    obtain ⟨more, further⟩ := ih
    exact ⟨units ++ more, first.append further⟩

end Escapes

theorem tokens_quoted (s : String) (rest : Bytes) :
    tokens (Utf8.ofString (quoted s) ++ rest) = .string (some s.toList) :: tokens rest := by
  obtain ⟨units, escapes⟩ := Escapes.exists_all s.toList
  have bytes : Utf8.ofString (quoted s) ++ rest =
      0x22 :: (Utf8.encode (s.toList.flatMap escapeChar) ++ 0x22 :: rest) := by
    rw [Utf8.ofString, quoted, String.toList_ofList, Utf8.encode_append, Utf8.encode_append]
    simp only [List.append_assoc]
    rfl
  have text : unitText? units = some s.toList := by
    have read := escapes.reads []
    rw [List.append_nil] at read
    simp [unitText?, read, unitBytes?, Utf8.decode?_eq_some_iff]
  have token : tokenAt 0x22 (Utf8.encode (s.toList.flatMap escapeChar) ++ 0x22 :: rest) =
      (.string (some s.toList), rest) := by
    change stringToken _ = _
    rw [stringToken, escapes.scans, scanString_quote]
    simp only [Body.prepend, Body.closed, List.append_nil, text]
  rw [bytes, tokens_cons (by decide), token]

def decimals (n : Nat) : List Nat := (Nat.toDigits 10 n).map fun d => d.toNat - 48

lemma decimals_one (h : n < 10) : decimals n = [n] := by
  rw [decimals, Nat.toDigits_of_lt_base h, List.map_singleton, Nat.toNat_digitChar_sub_48_of_lt_ten h]

lemma decimals_more {m k : Nat} (hm : 0 < m) (hk : k < 10) :
    decimals (10 * m + k) = decimals m ++ [k] := by
  rw [← decimals_one hk, decimals, ← Nat.toDigits_append_toDigits (by decide) hm hk, List.map_append]
  rfl

lemma decimals_ne_nil (n : Nat) : decimals n ≠ [] := mt List.map_eq_nil_iff.mp Nat.toDigits_ne_nil

lemma eq_zero_of_decimals (h : (decimals n).head? = some 0) : n = 0 := by
  induction n using Nat.base_induction 10 (by decide) with
  | single m hm => simpa [decimals_one hm] using h
  | digit m k hk hm ih =>
    obtain ⟨d, more, written⟩ := List.exists_cons_of_ne_nil (decimals_ne_nil m)
    rw [written] at ih
    rw [decimals_more hm hk, written] at h
    exact absurd (ih h) (Nat.ne_of_gt hm)

lemma unpadded_decimals (n : Nat) (rest : Bytes) :
    unpadded (decimals n) rest = .ok (decimals n, rest) := by
  unfold unpadded
  split
  · rename_i first more written
    have zero : n = 0 := eq_zero_of_decimals (by rw [written]; rfl)
    rw [zero, decimals_one (by decide)] at written
    cases written
  · rfl

lemma significand_decimals (h : n ≤ Numeral.largest) : Numeral.significand (decimals n) = (n, 0) := by
  induction n using Nat.base_induction 10 (by decide) with
  | single m hm =>
    have fits : ¬ Numeral.largest < m := by omega
    simp [decimals_one hm, Numeral.significand, fits]
  | digit m k hk hm ih =>
    have before : Numeral.significand (decimals m) = (m, 0) := ih (by omega)
    rw [decimals_more hm hk]
    unfold Numeral.significand at before ⊢
    rw [List.foldl_append, before]
    have fits : ¬ Numeral.largest < m * 10 + k := by omega
    simp [fits, Nat.mul_comm]

def Stops (rest : Bytes) : Prop :=
  ∀ b ∈ rest.head?, isDigit b = false ∧ b ≠ 0x2E ∧ b ≠ 0x65 ∧ b ≠ 0x45

lemma Stops.nil : Stops [] := by
  rintro b ⟨⟩

lemma Stops.cons (h : isDigit b = false ∧ b ≠ 0x2E ∧ b ≠ 0x65 ∧ b ≠ 0x45) (rest : Bytes) :
    Stops (b :: rest) := by
  rintro _ ⟨rfl⟩
  exact h

def digitBytes (n : Nat) : Bytes := (Nat.toDigits 10 n).map fun d => UInt8.ofNat d.toNat

lemma digit_range (h : c ∈ Nat.toDigits 10 n) : 48 ≤ c.toNat ∧ c.toNat ≤ 57 := by
  have digit := Nat.isDigit_of_mem_toDigits (by decide) (by decide) h
  simp only [Char.isDigit, Bool.and_eq_true, decide_eq_true_eq] at digit
  exact digit

lemma ofString_toString (n : Nat) : Utf8.ofString (toString n) = digitBytes n := by
  rw [Nat.toString_eq_ofList_toDigits, Utf8.ofString, String.toList_ofList]
  exact Utf8.encode_ascii fun d hd => by have := digit_range hd; omega

lemma isDigit_digitBytes : ∀ b ∈ digitBytes n, isDigit b = true := by
  intro b hb
  obtain ⟨d, hd, rfl⟩ := List.mem_map.mp hb
  have range := digit_range hd
  have byte := Utf8.toNat_byte (n := d.toNat) (by omega)
  simp only [isDigit, byte, Bool.and_eq_true, decide_eq_true_eq]
  exact range

lemma someDigits_digitBytes (n : Nat) (stops : Stops rest) :
    someDigits (digitBytes n ++ rest) = .ok (decimals n, rest) := by
  have stop : rest.head? = (rest.dropWhile isDigit).head? := by
    cases rest with
    | nil => rfl
    | cons b rest => simp [(stops b rfl).1]
  obtain ⟨taken, left⟩ := digits_stop isDigit_digitBytes stop
  refine someDigits_eq_ok_iff.mpr ⟨decimals_ne_nil n, ?_, left.symm⟩
  rw [digitsOf, taken, digitBytes, List.map_map]
  refine List.map_congr_left fun d hd => ?_
  have range := digit_range hd
  rw [Function.comp_apply, Utf8.toNat_byte (by omega)]

lemma scanNumber_digitBytes (negative : Bool) (n : Nat) (stops : Stops rest) :
    scanNumber negative (digitBytes n ++ rest) = .ok (⟨negative, decimals n, [], none⟩, rest) := by
  have whole : wholePart (digitBytes n ++ rest) = .ok (decimals n, rest) := by
    change (someDigits _).bind (fun r => unpadded r.1 r.2) = _
    rw [someDigits_digitBytes n stops]
    exact unpadded_decimals n rest
  have fraction : fractionPart rest = .ok ([], rest) := by
    cases rest with
    | nil => rfl
    | cons b rest => simp [fractionPart, (stops b rfl).2.1]
  have exponent : exponentPart rest = .ok (none, rest) := by
    cases rest with
    | nil => rfl
    | cons b rest => simp [exponentPart, (stops b rfl).2.2]
  simp only [scanNumber, whole, fraction, exponent, Bind.bind, Except.bind]

def Number.Exact : Number → Prop
  | .natural n => n ≤ Numeral.largest
  | .negative n => 1 ≤ n ∧ n ≤ 9223372036854775808
  | .float _ => False

lemma tokenAt_digit (h : isDigit b = true) (rest : Bytes) :
    isSpace b = false ∧ tokenAt b rest = numberToken false (b :: rest) := by
  have digits : ∀ n < 256, isDigit (UInt8.ofNat n) = true → isSpace (UInt8.ofNat n) = false ∧
      punctuation? (UInt8.ofNat n) = none ∧ UInt8.ofNat n ≠ 0x22 ∧ UInt8.ofNat n ≠ 0x2D := by
    decide +kernel
  have digit := digits b.toNat b.toNat_lt
  rw [UInt8.ofNat_toNat] at digit
  obtain ⟨space, mark, quote, minus⟩ := digit h
  refine ⟨space, ?_⟩
  simp [tokenAt, mark, quote, minus, h]

theorem tokens_number {number : Number} (h : number.Exact) (stops : Stops rest) :
    tokens (Utf8.ofString number.toText ++ rest) = .number (some number) :: tokens rest := by
  cases number with
  | natural n =>
    have token : numberToken false (digitBytes n ++ rest) = (.number (some (.natural n)), rest) := by
      rw [numberToken, scanNumber_digitBytes false n stops]
      simp [Numeral.value?, significand_decimals h]
    obtain ⟨b, more, written⟩ := List.exists_cons_of_ne_nil (l := digitBytes n)
      (mt List.map_eq_nil_iff.mp Nat.toDigits_ne_nil)
    have digit : isDigit b = true := isDigit_digitBytes (n := n) b (by simp [written])
    obtain ⟨filled, first⟩ := tokenAt_digit digit (more ++ rest)
    rw [written, List.cons_append] at token
    rw [Number.toText, ofString_toString, written, List.cons_append, tokens_cons filled, first, token]
  | negative n =>
    have fits : n ≤ Numeral.largest := by
      have := h.2
      unfold Numeral.largest
      omega
    have token : numberToken true (digitBytes n ++ rest) = (.number (some (.negative n)), rest) := by
      rw [numberToken, scanNumber_digitBytes true n stops]
      simp [Numeral.value?, significand_decimals fits, h.1, h.2]
    have bytes : Utf8.ofString (Number.negative n).toText ++ rest = 0x2D :: (digitBytes n ++ rest) := by
      rw [Number.toText, Utf8.ofString_append, ofString_toString]
      rfl
    rw [bytes, tokens_cons (by decide)]
    change (numberToken true _).1 :: tokens (numberToken true _).2 = _
    rw [token]
  | float x => cases h

mutual

def Node.ofValue : Value → Node
  | .null => .null
  | .bool b => .bool b
  | .number n => .number (some n)
  | .string s => .string (some s.toList)
  | .array items => .array (Node.ofValues items) .closed
  | .object members => .object (Node.ofMembers members) .closed

def Node.ofValues : List Value → List Node
  | [] => []
  | item :: items => Node.ofValue item :: Node.ofValues items

def Node.ofMembers : List (String × Value) → List (Option (List Char) × Node)
  | [] => []
  | (key, value) :: members => (some key.toList, Node.ofValue value) :: Node.ofMembers members

end

mutual

theorem Node.value?_ofValue (v : Value) : (Node.ofValue v).value? = some v := by
  cases v with
  | null => rfl
  | bool b => rfl
  | number n => rfl
  | string s => simp [ofValue, value?]
  | array items => rw [ofValue, value?, Node.values?_ofValues items, Option.map_some]
  | object members => rw [ofValue, value?, Node.memberValues?_ofMembers members, Option.map_some]

theorem Node.values?_ofValues (items : List Value) : Node.values? (Node.ofValues items) = some items := by
  cases items with
  | nil => rfl
  | cons item items =>
    rw [ofValues, values?, Node.value?_ofValue item, Node.values?_ofValues items]
    rfl

theorem Node.memberValues?_ofMembers (members : List (String × Value)) :
    Node.memberValues? (Node.ofMembers members) = some members := by
  cases members with
  | nil => rfl
  | cons m members =>
    obtain ⟨key, value⟩ := m
    rw [ofMembers, memberValues?, Node.value?_ofValue value, Node.memberValues?_ofMembers members]
    simp

end

mutual

theorem whole_ofValue (v : Value) : (Node.ofValue v).Whole := by
  cases v with
  | null => exact .null
  | bool b => exact .bool b
  | number n => exact .number _
  | string s => exact .string _
  | array items => exact .array (whole_ofValues items)
  | object members => exact .object (whole_ofMembers members)

theorem whole_ofValues (items : List Value) : ∀ node ∈ Node.ofValues items, node.Whole := by
  cases items with
  | nil => simp [Node.ofValues]
  | cons item items => exact List.forall_mem_cons.mpr ⟨whole_ofValue item, whole_ofValues items⟩

theorem whole_ofMembers (members : List (String × Value)) :
    ∀ m ∈ Node.ofMembers members, m.2.Whole := by
  rcases members with _ | ⟨⟨key, value⟩, members⟩
  · simp [Node.ofMembers]
  · exact List.forall_mem_cons.mpr ⟨whole_ofValue value, whole_ofMembers members⟩

end

inductive Value.Exact : Value → Prop
  | null : Exact .null
  | bool (b : Bool) : Exact (.bool b)
  | number {number : Number} (h : number.Exact) : Exact (.number number)
  | string (s : String) : Exact (.string s)
  | array {items : List Value} (h : ∀ item ∈ items, Exact item) : Exact (.array items)
  | object {members : List (String × Value)} (h : ∀ m ∈ members, Exact m.2) : Exact (.object members)

lemma tokens_mark {token : Token} (h : punctuation? b = some token) (filled : isSpace b = false)
    (rest : Bytes) : tokens (b :: rest) = token :: tokens rest := by
  have first : tokenAt b rest = (token, rest) := by simp only [tokenAt, h]
  rw [tokens_cons filled, first]

def Writes (text : String) (written : List Token) : Prop :=
  ∀ rest, Stops rest → tokens (Utf8.ofString text ++ rest) = written ++ tokens rest

variable {items : List Value} {members : List (String × Value)}

lemma ofString_comma : Utf8.ofString "," = [0x2C] := rfl
lemma ofString_colon : Utf8.ofString ":" = [0x3A] := rfl
lemma ofString_open : Utf8.ofString "\x7b" = [0x7B] := rfl
lemma ofString_close : Utf8.ofString "\x7d" = [0x7D] := rfl

lemma stops_itemsText (items : List Value) (rest : Bytes) :
    Stops (Utf8.ofString (Value.itemsText items) ++ 0x5D :: rest) := by
  cases items with
  | nil => exact .cons (by decide) rest
  | cons item items =>
    rw [Value.itemsText, Utf8.ofString_append, Utf8.ofString_append, List.append_assoc, List.append_assoc]
    exact .cons (by decide) _

lemma stops_membersText (members : List (String × Value)) (rest : Bytes) :
    Stops (Utf8.ofString (Value.membersText members) ++ 0x7D :: rest) := by
  rcases members with _ | ⟨⟨key, value⟩, members⟩
  · exact .cons (by decide) rest
  · rw [Value.membersText]
    simp only [Utf8.ofString_append, List.append_assoc]
    exact .cons (by decide) _

lemma tokens_itemsText (h : ∀ item ∈ items, Writes item.toText (Node.ofValue item).write)
    (rest : Bytes) : tokens (Utf8.ofString (Value.itemsText items) ++ 0x5D :: rest) =
      Node.writeItems (Node.ofValues items) ++ tokens rest := by
  induction items with
  | nil => exact tokens_mark rfl (by decide) rest
  | cons item items ih =>
    obtain ⟨first, further⟩ := List.forall_mem_cons.mp h
    have bytes : Utf8.ofString (Value.itemsText (item :: items)) ++ 0x5D :: rest =
        0x2C :: (Utf8.ofString item.toText ++ (Utf8.ofString (Value.itemsText items) ++ 0x5D :: rest)) := by
      rw [Value.itemsText, Utf8.ofString_append, Utf8.ofString_append, List.append_assoc,
        List.append_assoc]
      rfl
    rw [bytes, tokens_mark rfl (by decide), first _ (stops_itemsText items rest), ih further,
      Node.ofValues, Node.writeItems]
    simp

lemma tokens_pair {value : Value} (key : String) (h : Writes value.toText (Node.ofValue value).write)
    (stops : Stops rest) :
    tokens (Utf8.ofString (quoted key) ++ 0x3A :: (Utf8.ofString value.toText ++ rest)) =
      .string (some key.toList) :: .colon :: ((Node.ofValue value).write ++ tokens rest) := by
  rw [tokens_quoted, tokens_mark rfl (by decide), h rest stops]

lemma tokens_membersText (h : ∀ m ∈ members, Writes m.2.toText (Node.ofValue m.2).write)
    (rest : Bytes) : tokens (Utf8.ofString (Value.membersText members) ++ 0x7D :: rest) =
      Node.writeMembers (Node.ofMembers members) ++ tokens rest := by
  induction members with
  | nil => exact tokens_mark rfl (by decide) rest
  | cons m members ih =>
    obtain ⟨key, value⟩ := m
    obtain ⟨first, further⟩ := List.forall_mem_cons.mp h
    have bytes : Utf8.ofString (Value.membersText ((key, value) :: members)) ++ 0x7D :: rest =
        0x2C :: (Utf8.ofString (quoted key) ++ 0x3A :: (Utf8.ofString value.toText ++
          (Utf8.ofString (Value.membersText members) ++ 0x7D :: rest))) := by
      rw [Value.membersText]
      simp only [Utf8.ofString_append, ofString_comma, ofString_colon, List.append_assoc,
        List.cons_append, List.nil_append]
    rw [bytes, tokens_mark rfl (by decide), tokens_pair key first (stops_membersText members rest),
      ih further, Node.ofMembers, Node.writeMembers]
    simp

theorem writes_toText {v : Value} (h : v.Exact) : Writes v.toText (Node.ofValue v).write := by
  induction h with
  | null =>
    intro rest _
    exact tokens_cons (by decide) _
  | bool b =>
    intro rest _
    cases b with
    | true => exact tokens_cons (by decide) _
    | false => exact tokens_cons (by decide) _
  | number h =>
    intro rest stops
    rw [Value.toText, tokens_number h stops]
    rfl
  | string s =>
    intro rest _
    rw [Value.toText, tokens_quoted]
    rfl
  | @array items _ ih =>
    intro rest _
    cases items with
    | nil => exact (tokens_mark rfl (by decide) _).trans (congrArg _ (tokens_mark rfl (by decide) rest))
    | cons item items =>
      obtain ⟨first, further⟩ := List.forall_mem_cons.mp ih
      have bytes : Utf8.ofString (Value.array (item :: items)).toText ++ rest =
          0x5B :: (Utf8.ofString item.toText ++
            (Utf8.ofString (Value.itemsText items) ++ 0x5D :: rest)) := by
        rw [Value.toText]
        simp only [Utf8.ofString_append, List.append_assoc]
        rfl
      rw [bytes, tokens_mark rfl (by decide), first _ (stops_itemsText items rest),
        tokens_itemsText further, Node.ofValue, Node.ofValues, Node.write]
      simp
  | @object members _ ih =>
    intro rest _
    rcases members with _ | ⟨⟨key, value⟩, members⟩
    · exact (tokens_mark rfl (by decide) _).trans (congrArg _ (tokens_mark rfl (by decide) rest))
    · obtain ⟨first, further⟩ := List.forall_mem_cons.mp ih
      have bytes : Utf8.ofString (Value.object ((key, value) :: members)).toText ++ rest =
          0x7B :: (Utf8.ofString (quoted key) ++ 0x3A :: (Utf8.ofString value.toText ++
            (Utf8.ofString (Value.membersText members) ++ 0x7D :: rest))) := by
        rw [Value.toText]
        simp only [Utf8.ofString_append, ofString_open, ofString_close, ofString_colon, List.append_assoc,
          List.cons_append, List.nil_append]
      rw [bytes, tokens_mark rfl (by decide), tokens_pair key first (stops_membersText members rest),
        tokens_membersText further, Node.ofValue, Node.ofMembers, Node.write]
      simp

theorem ofBytes_toText {v : Value} (h : v.Exact) :
    Document.ofBytes (Utf8.ofString v.toText) = ⟨Node.ofValue v, false⟩ := by
  have written := writes_toText h [] Stops.nil
  have nothing : tokens [] = [.finish] := by rw [tokens]
  rw [List.append_nil, nothing] at written
  have read : Node.read (tokens (Utf8.ofString v.toText)) = .complete (Node.ofValue v) false := by
    rw [written, Node.read, List.foldl_append, Node.foldl_write (whole_ofValue v) rfl]
    rfl
  simp only [Document.ofBytes, read]

theorem Value.ofBytes?_toText {v : Value} (h : v.Exact) : Value.ofBytes? (Utf8.ofString v.toText) = some v := by
  rw [ofBytes?, ofBytes_toText h]
  exact Node.value?_ofValue v

end Json

end RegistryLogin
