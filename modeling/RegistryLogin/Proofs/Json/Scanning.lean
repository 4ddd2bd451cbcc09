import RegistryLogin.Json.Token
import Mathlib.Tactic.Lemma
import Mathlib.Tactic.SplitIfs

/-! How far a token reaches. -/

namespace RegistryLogin.Json

open Text

def Scans {α : Type} (scan : Bytes → Except Flaw (α × Bytes)) : Prop :=
  ∀ bytes a rest, scan bytes = .ok (a, rest) → ∃ front, bytes = front ++ rest ∧
    ∀ next : Bytes, next.head? = rest.head? → scan (front ++ next) = .ok (a, next)

lemma head?_append {front next rest : Bytes} (h : next.head? = rest.head?) :
    (front ++ next).head? = (front ++ rest).head? := by
  cases front with
  | nil => exact h
  | cons b front => rfl

namespace Scans

variable {α β : Type} {scan : Bytes → Except Flaw (α × Bytes)}

lemma pure (a : α) : Scans fun bytes => .ok (a, bytes) := by
  rintro bytes a' rest h
  obtain ⟨rfl, rfl⟩ := Prod.mk.inj (Except.ok.inj h)
  exact ⟨[], rfl, fun next _ => rfl⟩

lemma fail (flaw : Flaw) : Scans (α := α) fun _ => .error flaw := by
  rintro bytes a rest ⟨⟩

lemma bind {further : α → Bytes → Except Flaw (β × Bytes)} (h : Scans scan)
    (h' : ∀ a, Scans (further a)) :
    Scans fun bytes => (scan bytes).bind fun r => further r.1 r.2 := by
  intro bytes b rest taken
  cases hs : scan bytes with
  | error flaw =>
    simp only [hs] at taken
    cases taken
  | ok r =>
    simp only [hs] at taken
    obtain ⟨front, rfl, same⟩ := h bytes r.1 r.2 hs
    obtain ⟨more, split, same'⟩ := h' r.1 r.2 b rest taken
    refine ⟨front ++ more, by rw [List.append_assoc, ← split], fun next head => ?_⟩
    have step := same (more ++ next) (by rw [split]; exact head?_append head)
    simp only [List.append_assoc, step]
    exact same' next head

lemma peek (h : Scans scan) (test : UInt8 → Bool) (a : α) :
    Scans fun bytes => if bytes.head?.any test then scan bytes.tail else .ok (a, bytes) := by
  intro bytes a' rest taken
  by_cases ht : bytes.head?.any test = true
  · simp only [ht, if_true] at taken
    cases bytes with
    | nil => cases ht
    | cons b bytes =>
      obtain ⟨front, hf, same⟩ := h bytes a' rest taken
      refine ⟨b :: front, congrArg (b :: ·) hf, fun next head => ?_⟩
      simpa [show test b = true from ht] using same next head
  · simp only [ht] at taken
    obtain ⟨rfl, rfl⟩ := Prod.mk.inj (Except.ok.inj taken)
    refine ⟨[], rfl, fun next head => ?_⟩
    simp only [List.nil_append, head, ht]
    rfl

end Scans

lemma digits_stop {front next rest : Bytes} (digits : ∀ b ∈ front, isDigit b = true)
    (head : next.head? = (rest.dropWhile isDigit).head?) :
    (front ++ next).takeWhile isDigit = front ∧ (front ++ next).dropWhile isDigit = next := by
  rw [List.takeWhile_append_of_pos digits, List.dropWhile_append_of_pos digits]
  have stop := List.head?_dropWhile_not isDigit rest
  rw [← head] at stop
  cases next with
  | nil => simp
  | cons b next =>
    have stops : isDigit b = false := stop
    simp [stops]

lemma someDigits_eq_ok_iff {bytes rest : Bytes} {digits : List Nat} :
    someDigits bytes = .ok (digits, rest) ↔
      digits ≠ [] ∧ digits = digitsOf bytes ∧ rest = bytes.dropWhile isDigit := by
  unfold someDigits
  split
  · rename_i none
    simp only [reduceCtorEq, false_iff]
    rintro ⟨some, same, -⟩
    exact some (same.trans none)
  · rename_i some
    simp only [Except.ok.injEq, Prod.mk.injEq]
    constructor
    · rintro ⟨rfl, rfl⟩
      exact ⟨some, rfl, rfl⟩
    · rintro ⟨-, rfl, rfl⟩
      exact ⟨rfl, rfl⟩

lemma someDigits_scans : Scans someDigits := by
  intro bytes digits rest taken
  obtain ⟨some, rfl, rfl⟩ := someDigits_eq_ok_iff.mp taken
  refine ⟨bytes.takeWhile isDigit, List.takeWhile_append_dropWhile.symm, fun next head => ?_⟩
  obtain ⟨same, left⟩ := digits_stop (List.all_eq_true.mp List.all_takeWhile) head
  refine someDigits_eq_ok_iff.mpr ⟨some, ?_, left.symm⟩
  rw [digitsOf, digitsOf, same]

def unpadded (digits : List Nat) (rest : Bytes) : Except Flaw (List Nat × Bytes) :=
  match digits with
  | 0 :: _ :: _ => .error (.both .malformed)
  | _ => .ok (digits, rest)

lemma wholePart_scans : Scans wholePart := by
  have checked : ∀ digits, Scans (unpadded digits) := by
    rintro (_ | ⟨_ | n, _ | ⟨m, digits⟩⟩)
    · exact .pure _
    · exact .pure _
    · exact .fail _
    · exact .pure _
    · exact .pure _
  exact someDigits_scans.bind checked

lemma fractionPart_eq (bytes : Bytes) : fractionPart bytes =
    if bytes.head?.any (· == 0x2E) then someDigits bytes.tail else .ok ([], bytes) := by
  cases bytes with
  | nil => rfl
  | cons b bytes => rfl

lemma fractionPart_scans : Scans fractionPart := by
  rw [funext fractionPart_eq]
  exact someDigits_scans.peek _ []

lemma exponentSign_scans : Scans fun bytes => .ok (exponentSign bytes) := by
  intro bytes negative rest taken
  have taken := Except.ok.inj taken
  cases bytes with
  | nil =>
    obtain ⟨rfl, rfl⟩ := Prod.mk.inj taken
    refine ⟨[], rfl, fun next head => ?_⟩
    obtain rfl := List.head?_eq_none_iff.mp head
    rfl
  | cons s bytes =>
    rw [exponentSign] at taken
    split_ifs at taken with minus plus
    · obtain ⟨rfl, rfl⟩ := Prod.mk.inj taken
      exact ⟨[s], rfl, fun next _ => by simp [exponentSign, minus]⟩
    · obtain ⟨rfl, rfl⟩ := Prod.mk.inj taken
      exact ⟨[s], rfl, fun next _ => by simp [exponentSign, minus, plus]⟩
    · obtain ⟨rfl, rfl⟩ := Prod.mk.inj taken
      refine ⟨[], rfl, fun next head => ?_⟩
      obtain ⟨next, rfl⟩ := List.head?_eq_some_iff.mp head
      simp [exponentSign, minus, plus]

lemma exponentPart_eq (bytes : Bytes) : exponentPart bytes =
    if bytes.head?.any (fun e => e == 0x65 || e == 0x45) then
      (Except.ok (exponentSign bytes.tail)).bind fun r => (someDigits r.2).bind fun d =>
        .ok (some (r.1, d.1), d.2)
    else .ok (none, bytes) := by
  cases bytes with
  | nil => rfl
  | cons e bytes =>
    rw [exponentPart, List.head?_cons, Option.any_some, List.tail_cons]
    congr 1
    cases hd : someDigits (exponentSign bytes).2 <;> simp [Except.bind, hd]

lemma exponentPart_scans : Scans exponentPart := by
  have digits (negative : Bool) : Scans fun bytes => (someDigits bytes).bind fun d =>
      .ok (some (negative, d.1), d.2) :=
    someDigits_scans.bind fun digits => .pure (some (negative, digits))
  rw [funext exponentPart_eq]
  exact (exponentSign_scans.bind digits).peek _ none

lemma scanNumber_scans (negative : Bool) : Scans (scanNumber negative) := by
  have exponent (whole fraction : List Nat) : Scans fun bytes => (exponentPart bytes).bind fun e =>
      .ok ((⟨negative, whole, fraction, e.1⟩ : Numeral), e.2) :=
    exponentPart_scans.bind fun e => .pure (⟨negative, whole, fraction, e⟩ : Numeral)
  exact wholePart_scans.bind fun whole => fractionPart_scans.bind (exponent whole)

lemma scanString_quote (rest : Bytes) : scanString (0x22 :: rest) = .closed rest := by
  rw [scanString.eq_def]
  rfl

lemma scanString_byte {b : UInt8} (quote : b ≠ 0x22) (escape : b ≠ 0x5C) (visible : ¬ b.toNat < 0x20)
    (next : Bytes) : scanString (b :: next) = (scanString next).cons (.byte b) := by
  rw [scanString.eq_def]
  simp [quote, escape, visible]

lemma scanString_escape {e b : UInt8} (short : e ≠ 0x75) (h : escapedByte? e = some b)
    (next : Bytes) : scanString (0x5C :: e :: next) = (scanString next).cons (.byte b) := by
  rw [scanString.eq_def]
  simp [short, h]

lemma scanString_unicode {h₁ h₂ h₃ h₄ : UInt8} {a b c d : Nat} (d₁ : hexByte? h₁ = some a)
    (d₂ : hexByte? h₂ = some b) (d₃ : hexByte? h₃ = some c) (d₄ : hexByte? h₄ = some d)
    (next : Bytes) : scanString (0x5C :: 0x75 :: h₁ :: h₂ :: h₃ :: h₄ :: next) =
      (scanString next).cons (.escape (((a * 16 + b) * 16 + c) * 16 + d)) := by
  simp [scanString, d₁, d₂, d₃, d₄]

lemma scanString_hex (h₁ h₂ h₃ h₄ : UInt8) :
    (∀ next, scanString (0x5C :: 0x75 :: h₁ :: h₂ :: h₃ :: h₄ :: next) = .broken .malformed) ∨
      ∃ unit, ∀ next, scanString (0x5C :: 0x75 :: h₁ :: h₂ :: h₃ :: h₄ :: next) =
        (scanString next).cons unit := by
  cases d₁ : hexByte? h₁ with
  | none => exact .inl fun next => by simp [scanString, d₁]
  | some a =>
    cases d₂ : hexByte? h₂ with
    | none => exact .inl fun next => by simp [scanString, d₂]
    | some b =>
      cases d₃ : hexByte? h₃ with
      | none => exact .inl fun next => by simp [scanString, d₃]
      | some c =>
        cases d₄ : hexByte? h₄ with
        | none => exact .inl fun next => by simp [scanString, d₄]
        | some d => exact .inr ⟨_, scanString_unicode d₁ d₂ d₃ d₄⟩

lemma scanString_piece {bytes rest : Bytes} (h : (scanString bytes).stop = .ok rest) :
    bytes = 0x22 :: rest ∨ ∃ piece tail unit, piece ≠ [] ∧ bytes = piece ++ tail ∧
      ∀ next, scanString (piece ++ next) = (scanString next).cons unit := by
  rcases bytes with _ | ⟨b, tail⟩
  · cases h
  by_cases quote : b = 0x22
  · subst quote
    rw [scanString_quote] at h
    obtain rfl := Except.ok.inj h
    exact .inl rfl
  refine .inr ?_
  by_cases escape : b = 0x5C
  · subst escape
    rcases tail with _ | ⟨e, tail⟩
    · cases h
    by_cases unicode : e = 0x75
    · subst unicode
      rcases tail with _ | ⟨h₁, _ | ⟨h₂, _ | ⟨h₃, _ | ⟨h₄, tail⟩⟩⟩⟩
      · cases h
      · cases h
      · cases h
      · cases h
      rcases scanString_hex h₁ h₂ h₃ h₄ with broken | ⟨unit, taken⟩
      · rw [broken] at h
        cases h
      · exact ⟨[0x5C, 0x75, h₁, h₂, h₃, h₄], tail, unit, by simp, rfl, taken⟩
    · cases short : escapedByte? e with
      | none =>
        rw [scanString.eq_def] at h
        simp [unicode, short, Body.broken] at h
      | some c =>
        exact ⟨[0x5C, e], tail, .byte c, by simp, rfl, scanString_escape unicode short⟩
  · by_cases visible : b.toNat < 0x20
    · rw [scanString.eq_def] at h
      simp [quote, escape, visible, Body.broken] at h
    · exact ⟨[b], tail, .byte b, by simp, rfl, scanString_byte quote escape visible⟩

lemma scanString_stops {bytes rest : Bytes} (h : (scanString bytes).stop = .ok rest) :
    ∃ front, bytes = front ++ rest ∧
      ∀ next, scanString (front ++ next) = ⟨(scanString bytes).units, .ok next⟩ := by
  -- piece by piece, on the length of what is left
  induction hn : bytes.length using Nat.strongRecOn generalizing bytes with
  | ind n ih =>
    subst hn
    obtain rfl | ⟨piece, tail, unit, nonempty, rfl, taken⟩ := scanString_piece h
    · refine ⟨[0x22], rfl, fun next => ?_⟩
      rw [List.singleton_append, scanString_quote, scanString_quote]
      rfl
    · have shorter : tail.length < (piece ++ tail).length := by
        have := List.length_pos_iff.mpr nonempty
        rw [List.length_append]
        omega
      rw [taken] at h
      obtain ⟨front, rfl, same⟩ := ih tail.length shorter h rfl
      refine ⟨piece ++ front, by rw [List.append_assoc], fun next => ?_⟩
      rw [List.append_assoc, taken, taken, same]
      rfl

def Lexes (lex : Bytes → Token × Bytes) : Prop :=
  ∀ bytes, (lex bytes).2 ≠ [] → ∃ front, bytes = front ++ (lex bytes).2 ∧
    ∀ next : Bytes, next.head? = (lex bytes).2.head? → lex (front ++ next) = ((lex bytes).1, next)

lemma numberToken_lexes (negative : Bool) : Lexes (numberToken negative) := by
  intro bytes left
  cases hs : scanNumber negative bytes with
  | error flaw => simp [numberToken, hs] at left
  | ok r =>
    obtain ⟨front, split, same⟩ := scanNumber_scans negative bytes r.1 r.2 hs
    simp only [numberToken, hs]
    refine ⟨front, split, fun next head => ?_⟩
    rw [same next head]

lemma stringToken_lexes : Lexes stringToken := by
  intro bytes left
  cases hb : scanString bytes with
  | mk units stop =>
    rcases stop with (_ | _) | rest
    · simp [stringToken, hb] at left
    · simp [stringToken, hb] at left
    · obtain ⟨front, split, same⟩ := scanString_stops (congrArg Body.stop hb)
      simp only [stringToken, hb]
      refine ⟨front, split, fun next _ => ?_⟩
      rw [same, hb]

lemma nameToken_lexes (token : Token) (letters : List Char) : Lexes (nameToken token letters) := by
  intro bytes left
  fun_induction nameToken token letters bytes with
  | case1 bytes => exact ⟨[], rfl, fun next _ => rfl⟩
  | case2 => contradiction
  | case3 c letters b bytes same ih =>
    obtain ⟨front, split, further⟩ := ih left
    refine ⟨b :: front, congrArg (b :: ·) split, fun next head => ?_⟩
    rw [List.cons_append, nameToken, if_pos same, further next head]
  | case4 => contradiction

lemma numberToken_cons_lexes (b : UInt8) : Lexes fun bytes => numberToken false (b :: bytes) := by
  intro bytes left
  obtain ⟨front, split, same⟩ := numberToken_lexes false (b :: bytes) left
  cases front with
  | nil =>
    have short := length_numberToken_lt false b bytes
    rw [List.nil_append] at split
    rw [← split, List.length_cons] at short
    omega
  | cons c front =>
    obtain ⟨rfl, bytesSplit⟩ := List.cons.inj split
    exact ⟨front, bytesSplit, same⟩

lemma tokenAt_lexes (b : UInt8) : Lexes (tokenAt b) := by
  cases hp : punctuation? b with
  | some token =>
    intro bytes _
    simp only [tokenAt, hp]
    exact ⟨[], rfl, fun next _ => rfl⟩
  | none =>
    simp only [funext (tokenAt.eq_def b), hp]
    split_ifs
    · exact stringToken_lexes
    · exact numberToken_lexes true
    · exact numberToken_cons_lexes b
    · exact nameToken_lexes .null _
    · exact nameToken_lexes (.bool true) _
    · exact nameToken_lexes (.bool false) _
    · intro bytes left
      contradiction

namespace Token

def closes : Token → Bool
  | .closeArray | .closeObject => true
  | _ => false

end Token

lemma closes_stringToken (bytes : Bytes) : (stringToken bytes).1.closes = false := by
  unfold stringToken
  split <;> rfl

lemma closes_numberToken (negative : Bool) (bytes : Bytes) :
    (numberToken negative bytes).1.closes = false := by
  unfold numberToken
  split <;> rfl

lemma closes_nameToken {token : Token} (h : token.closes = false) (letters : List Char)
    (bytes : Bytes) : (nameToken token letters bytes).1.closes = false := by
  fun_induction nameToken token letters bytes with
  | case1 => exact h
  | case2 => rfl
  | case3 _ _ _ _ _ ih => exact ih
  | case4 => rfl

lemma tokenAt_of_closes {b : UInt8} {bytes : Bytes} (h : (tokenAt b bytes).1.closes = true)
    (next : Bytes) : tokenAt b next = ((tokenAt b bytes).1, next) := by
  cases hp : punctuation? b with
  | some token => simp only [tokenAt, hp]
  | none =>
    have other : (tokenAt b bytes).1.closes = false := by
      simp only [tokenAt, hp]
      split_ifs
      · exact closes_stringToken bytes
      · exact closes_numberToken true bytes
      · exact closes_numberToken false (b :: bytes)
      · exact closes_nameToken rfl _ bytes
      · exact closes_nameToken rfl _ bytes
      · exact closes_nameToken rfl _ bytes
      · rfl
    rw [other] at h
    cases h

lemma tokens_space {b : UInt8} (h : isSpace b = true) (bytes : Bytes) :
    tokens (b :: bytes) = tokens bytes := by
  rw [tokens, if_pos h]

lemma tokens_cons {b : UInt8} (h : isSpace b = false) (bytes : Bytes) :
    tokens (b :: bytes) = (tokenAt b bytes).1 :: tokens (tokenAt b bytes).2 := by
  rw [tokens, if_neg (by simp [h])]

theorem tokens_cut {bytes : Bytes} {front behind : List Token} {bracket : Token}
    (h : tokens bytes = front ++ bracket :: behind) (closes : bracket.closes = true) :
    ∃ text rest, bytes = text ++ rest ∧ tokens rest = behind ∧
      ∀ next, tokens (text ++ next) = front ++ bracket :: tokens next := by
  fun_induction tokens bytes generalizing front with
  | case1 =>
    rcases front with _ | ⟨token, front⟩
    · obtain ⟨rfl, -⟩ := List.cons.inj h
      cases closes
    · obtain ⟨-, empty⟩ := List.cons.inj h
      simp at empty
  | case2 b bytes space ih =>
    obtain ⟨text, rest, rfl, left, same⟩ := ih h
    refine ⟨b :: text, rest, rfl, left, fun next => ?_⟩
    rw [List.cons_append, tokens_space space, same]
  | case3 b bytes filled ih =>
    have filled : isSpace b = false := by simpa using filled
    rcases front with _ | ⟨token, front⟩
    · obtain ⟨rfl, left⟩ := List.cons.inj h
      have alone := tokenAt_of_closes closes
      refine ⟨[b], bytes, rfl, ?_, fun next => ?_⟩
      · rw [← left, alone bytes]
      · rw [List.singleton_append, tokens_cons filled, alone next]
        rfl
    · obtain ⟨rfl, further⟩ := List.cons.inj h
      obtain ⟨text, rest, split, left, same⟩ := ih further
      have nonempty : text ≠ [] := by
        rintro rfl
        have length := congrArg List.length (same [])
        simp only [List.nil_append, List.length_append, List.length_cons] at length
        omega
      obtain ⟨c, text, rfl⟩ := List.exists_cons_of_ne_nil nonempty
      obtain ⟨taken, parts, again⟩ := tokenAt_lexes b bytes (by simp [split])
      refine ⟨b :: (taken ++ c :: text), rest, ?_, left, fun next => ?_⟩
      · rw [parts, split]
        simp
      · have step := again (c :: text ++ next) (by rw [split]; rfl)
        rw [List.cons_append, tokens_cons filled, List.append_assoc, step, same next]
        rfl

end RegistryLogin.Json
