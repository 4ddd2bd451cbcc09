import RegistryLogin.Text.Utf8
import Mathlib.Tactic.Lemma
import Mathlib.Tactic.Simproc.ExistsAndEq
import Mathlib.Tactic.SplitIfs

namespace RegistryLogin

lemma ascii_forall {P : Char → Prop} {c : Char} (h : ∀ n < 128, P (Char.ofNat n)) (hc : c.toNat < 128) : P c := by
  rw [← Char.ofNat_toNat c]
  exact h c.toNat hc

namespace Text.Utf8

variable {c : Char} {cs : List Char} {b : UInt8} {bytes rest more : Bytes}

lemma toNat_byte {n : Nat} (h : n < 256) : (UInt8.ofNat n).toNat = n := Nat.mod_eq_of_lt h

lemma toNat_cases (c : Char) : c.toNat < 0xD800 ∨ 0xDFFF < c.toNat ∧ c.toNat < 0x110000 := c.valid

lemma toNat_char {n : Nat} (h : n < 0xD800 ∨ 0xDFFF < n ∧ n < 0x110000) : (Char.ofNat n).toNat = n := by
  rw [Char.ofNat, dif_pos h]
  rfl

lemma admitsSecond_iff {first second : Nat} : admitsSecond first second = true ↔
    0x80 ≤ second ∧ second < 0xC0 ∧ (first = 0xE0 → 0xA0 ≤ second) ∧ (first = 0xED → second < 0xA0) ∧
      (first = 0xF0 → 0x90 ≤ second) ∧ (first = 0xF4 → second < 0x90) := by
  unfold admitsSecond
  split_ifs <;> simp only [Bool.and_eq_true, decide_eq_true_eq] <;> omega

lemma isContinuation_iff : isContinuation b = true ↔ 0x80 ≤ b.toNat ∧ b.toNat < 0xC0 := by
  simp [isContinuation]

inductive Forms (c : Char) (b : UInt8) : Bytes → Prop
  | one (hb : b.toNat < 0x80) (hc : c.toNat = b.toNat) : Forms c b []
  | two {d : UInt8} (hb : 0xC2 ≤ b.toNat ∧ b.toNat < 0xE0)
    (hd : admitsSecond b.toNat d.toNat = true)
    (hc : c.toNat = b.toNat % 32 * 64 + d.toNat % 64) : Forms c b [d]
  | three {d e : UInt8} (hb : 0xE0 ≤ b.toNat ∧ b.toNat < 0xF0)
    (hd : admitsSecond b.toNat d.toNat = true) (he : isContinuation e = true)
    (hc : c.toNat = b.toNat % 16 * 4096 + d.toNat % 64 * 64 + e.toNat % 64) : Forms c b [d, e]
  | four {d e f : UInt8} (hb : 0xF0 ≤ b.toNat ∧ b.toNat < 0xF5)
    (hd : admitsSecond b.toNat d.toNat = true) (he : isContinuation e = true)
    (hf : isContinuation f = true)
    (hc : c.toNat = b.toNat % 8 * 262144 + d.toNat % 64 * 4096 + e.toNat % 64 * 64 + f.toNat % 64) :
    Forms c b [d, e, f]

lemma exists_forms (c : Char) : ∃ b more, String.utf8EncodeChar c = b :: more ∧ Forms c b more := by
  have valid := toNat_cases c
  have val : c.val.toNat = c.toNat := rfl
  have continues (n : Nat) : (UInt8.ofNat (n % 64 + 128)).toNat = n % 64 + 128 := toNat_byte (by omega)
  have continuation (n : Nat) : isContinuation (UInt8.ofNat (n % 64 + 128)) = true := by
    rw [isContinuation_iff, continues]
    omega
  simp only [String.utf8EncodeChar, val]
  split_ifs with one two three
  · have first := toNat_byte (n := c.toNat) (by omega)
    exact ⟨_, [], rfl, .one (by omega) (by omega)⟩
  · have first := toNat_byte (n := c.toNat / 64 % 32 + 192) (by omega)
    refine ⟨_, _, rfl, .two (by omega) (admitsSecond_iff.mpr ?_) ?_⟩
    · rw [continues]
      omega
    · rw [continues]
      omega
  · have first := toNat_byte (n := c.toNat / 4096 % 16 + 224) (by omega)
    refine ⟨_, _, rfl, .three (by omega) (admitsSecond_iff.mpr ?_) (continuation _) ?_⟩
    · rw [continues]
      omega
    · rw [continues, continues]
      omega
  · have first := toNat_byte (n := c.toNat / 262144 % 8 + 240) (by omega)
    refine ⟨_, _, rfl, .four (by omega) (admitsSecond_iff.mpr ?_) (continuation _) (continuation _) ?_⟩
    · rw [continues]
      omega
    · rw [continues, continues, continues]
      omega

lemma Forms.piece_eq (h : Forms c b more) (rest : Bytes) :
    piece b (more ++ rest) = ⟨some c, more.length⟩ := by
  have self : Char.ofNat c.toNat = c := Char.ofNat_toNat c
  cases h with
  | one hb hc => simp [piece, ← hc, self, show c.toNat < 0x80 by omega]
  | two hb hd hc =>
    simp [piece, hd, ← hc, self, show ¬ b.toNat < 0x80 by omega, show ¬ b.toNat < 0xC2 by omega,
      show ¬ 0xF5 ≤ b.toNat by omega, hb.2]
  | three hb hd he hc =>
    simp [piece, hd, he, ← hc, self, show ¬ b.toNat < 0x80 by omega, show ¬ b.toNat < 0xC2 by omega,
      show ¬ 0xF5 ≤ b.toNat by omega, show ¬ b.toNat < 0xE0 by omega, hb.2]
  | four hb hd he hf hc =>
    simp [piece, hd, he, hf, ← hc, self, show ¬ b.toNat < 0x80 by omega, show ¬ b.toNat < 0xC2 by omega,
      show ¬ 0xF5 ≤ b.toNat by omega, show ¬ b.toNat < 0xE0 by omega, show ¬ b.toNat < 0xF0 by omega]

lemma forms_of_piece {n : Nat} (h : piece b rest = ⟨some c, n⟩) :
    ∃ more tail, rest = more ++ tail ∧ more.length = n ∧ Forms c b more := by
  have reads {m k : Nat} (h : (⟨some (Char.ofNat m), k⟩ : Piece) = ⟨some c, n⟩)
      (valid : m < 0xD800 ∨ 0xDFFF < m ∧ m < 0x110000) : c.toNat = m ∧ k = n := by
    simp only [Piece.mk.injEq, Option.some.injEq] at h
    obtain ⟨rfl, rfl⟩ := h
    exact ⟨toNat_char valid, rfl⟩
  simp only [piece] at h
  split_ifs at h with ascii broken two three
  · obtain ⟨hc, rfl⟩ := reads h (by omega)
    exact ⟨[], rest, rfl, rfl, .one ascii hc⟩
  · cases h
  · rcases rest with _ | ⟨d, rest⟩
    · cases h
    simp only at h
    split_ifs at h with hd
    · obtain ⟨hc, rfl⟩ := reads h (by omega)
      exact ⟨[d], rest, rfl, rfl, .two (by omega) hd hc⟩
    · cases h
  · rcases rest with _ | ⟨d, _ | ⟨e, rest⟩⟩
    · cases h
    · simp only at h
      split_ifs at h <;> cases h
    simp only at h
    split_ifs at h with hd he
    · have second := admitsSecond_iff.mp hd
      obtain ⟨hc, rfl⟩ := reads h (by omega)
      exact ⟨[d, e], rest, rfl, rfl, .three (by omega) hd he hc⟩
    · cases h
    · cases h
  · rcases rest with _ | ⟨d, _ | ⟨e, _ | ⟨f, rest⟩⟩⟩
    · cases h
    · simp only at h
      split_ifs at h <;> cases h
    · simp only at h
      split_ifs at h <;> cases h
    simp only at h
    split_ifs at h with hd he hf
    · have second := admitsSecond_iff.mp hd
      obtain ⟨hc, rfl⟩ := reads h (by omega)
      exact ⟨[d, e, f], rest, rfl, rfl, .four (by omega) hd he hf hc⟩
    · cases h
    · cases h
    · cases h

lemma Forms.encodeChar_eq (h : Forms c b more) : String.utf8EncodeChar c = b :: more := by
  have val : c.val.toNat = c.toNat := rfl
  have byte {n : Nat} {d : UInt8} (h : n = d.toNat) : UInt8.ofNat n = d := by
    rw [h, UInt8.ofNat_toNat]
  simp only [String.utf8EncodeChar, val]
  cases h with
  | one hb hc => rw [if_pos (by omega), byte hc]
  | two hb hd hc =>
    have second := admitsSecond_iff.mp hd
    rw [if_neg (by omega), if_pos (by omega)]
    simp only [List.cons.injEq, and_true]
    exact ⟨byte (by omega), byte (by omega)⟩
  | three hb hd he hc =>
    have second := admitsSecond_iff.mp hd
    have third := isContinuation_iff.mp he
    rw [if_neg (by omega), if_neg (by omega), if_pos (by omega)]
    simp only [List.cons.injEq, and_true]
    exact ⟨byte (by omega), byte (by omega), byte (by omega)⟩
  | four hb hd he hf hc =>
    have second := admitsSecond_iff.mp hd
    have third := isContinuation_iff.mp he
    have fourth := isContinuation_iff.mp hf
    rw [if_neg (by omega), if_neg (by omega), if_neg (by omega)]
    simp only [List.cons.injEq, and_true]
    exact ⟨byte (by omega), byte (by omega), byte (by omega), byte (by omega)⟩

lemma encode_append (cs ds : List Char) : encode (cs ++ ds) = encode cs ++ encode ds :=
  List.flatMap_append

lemma encodeChar_ascii (hc : c.toNat < 128) : String.utf8EncodeChar c = [UInt8.ofNat c.toNat] :=
  ascii_forall (P := fun c => String.utf8EncodeChar c = [UInt8.ofNat c.toNat]) (by decide +kernel) hc

lemma encode_ascii (h : ∀ c ∈ cs, c.toNat < 128) : encode cs = cs.map fun c => UInt8.ofNat c.toNat := by
  induction cs with
  | nil => rfl
  | cons c cs ih =>
    rw [encode] at ih ⊢
    rw [List.flatMap_cons, encodeChar_ascii (h c List.mem_cons_self),
      ih fun d hd => h d (List.mem_cons_of_mem c hd)]
    rfl

lemma chars_encodeChar_append (c : Char) (rest : Bytes) :
    chars (String.utf8EncodeChar c ++ rest) = some c :: chars rest := by
  obtain ⟨b, more, bytes, forms⟩ := exists_forms c
  rw [bytes, List.cons_append, chars, forms.piece_eq, List.drop_left]

lemma chars_encode_append (cs : List Char) (rest : Bytes) :
    chars (encode cs ++ rest) = cs.map some ++ chars rest := by
  induction cs with
  | nil => rfl
  | cons c cs ih =>
    rw [encode] at ih ⊢
    rw [List.flatMap_cons, List.append_assoc, chars_encodeChar_append, ih, List.map_cons, List.cons_append]

lemma chars_encode (cs : List Char) : chars (encode cs) = cs.map some := by
  simpa [chars] using chars_encode_append cs []

theorem decodeLossy_encode (cs : List Char) : decodeLossy (encode cs) = cs := by
  rw [decodeLossy, chars_encode, List.map_map]
  exact List.map_id cs

lemma eq_encode_of_chars (h : chars bytes = cs.map some) : bytes = encode cs := by
  fun_induction chars bytes generalizing cs with
  | case1 =>
    obtain rfl : cs = [] := by simpa using h
    rfl
  | case2 b rest ih =>
    obtain ⟨c, cs, rfl⟩ := List.exists_cons_of_ne_nil (l := cs) (by rintro rfl; cases h)
    obtain ⟨first, further⟩ := List.cons.inj h
    obtain ⟨more, tail, split, taken, forms⟩ := forms_of_piece (n := (piece b rest).more) (by rw [← first])
    have left : rest.drop (piece b rest).more = tail := by rw [← taken, split, List.drop_left]
    rw [split, encode, List.flatMap_cons, forms.encodeChar_eq, ← encode, ← ih further, left]
    rfl

lemma mapM_id_eq_some_iff {found : List (Option Char)} :
    found.mapM id = some cs ↔ found = cs.map some := by
  induction found generalizing cs with
  | nil => cases cs <;> simp
  | cons c found ih =>
    cases cs with
    | nil => cases c <;> simp [Option.bind_eq_some_iff]
    | cons d cs => cases c <;> simp [Option.bind_eq_some_iff, ih, and_comm]

theorem decode?_eq_some_iff : decode? bytes = some cs ↔ bytes = encode cs := by
  rw [decode?, mapM_id_eq_some_iff]
  constructor
  · exact eq_encode_of_chars
  · rintro rfl
    exact chars_encode cs

end Text.Utf8

end RegistryLogin
