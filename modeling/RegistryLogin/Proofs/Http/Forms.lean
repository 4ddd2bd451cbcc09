import RegistryLogin.Http.Form
import RegistryLogin.Proofs.Text.Encoding
import RegistryLogin.Proofs.Text.Splitting

namespace RegistryLogin

open Text

variable {b : UInt8} {rest : Bytes} {c : Char} {cs : List Char}

namespace Url.Percent

lemma decode_plain (plain : b ≠ 0x25) (rest : Bytes) : decode (b :: rest) = b :: decode rest := by
  have hb : (b == 0x25) = false := beq_eq_false_iff_ne.mpr plain
  rw [decode.eq_def]
  simp only [hb]

lemma decode_code {h l : UInt8} {high low : Nat} (hh : hexValue? (Char.ofNat h.toNat) = some high)
    (hl : hexValue? (Char.ofNat l.toNat) = some low) (rest : Bytes) :
    decode (0x25 :: h :: l :: rest) = UInt8.ofNat (16 * high + low) :: decode rest := by
  rw [decode.eq_def]
  simp only [beq_self_eq_true, hh, hl]

end Url.Percent

namespace Form

def unplus (c : Char) : Char := if c = '+' then ' ' else c

lemma upperHexDigit_value {n : Nat} (h : n < 16) : unplus (upperHexDigit n) = upperHexDigit n ∧
    ∃ d, String.utf8EncodeChar (upperHexDigit n) = [d] ∧ hexValue? (Char.ofNat d.toNat) = some n := by
  have digits : ∀ n < 16, unplus (upperHexDigit n) = upperHexDigit n ∧
      String.utf8EncodeChar (upperHexDigit n) = [UInt8.ofNat (upperHexDigit n).toNat] ∧
      hexValue? (Char.ofNat (UInt8.ofNat (upperHexDigit n).toNat).toNat) = some n := by
    decide +kernel
  obtain ⟨same, bytes, value⟩ := digits n h
  exact ⟨same, _, bytes, value⟩

lemma decode_escaped (b : UInt8) (rest : Bytes) :
    Url.Percent.decode (Utf8.encode ((Url.Percent.encodeByte b).map unplus) ++ rest) =
      b :: Url.Percent.decode rest := by
  have range := b.toNat_lt
  obtain ⟨high, h, hb, hv⟩ := upperHexDigit_value (n := b.toNat / 16) (by omega)
  obtain ⟨low, l, lb, lv⟩ := upperHexDigit_value (n := b.toNat % 16) (by omega)
  have bytes : Utf8.encode ((Url.Percent.encodeByte b).map unplus) = [0x25, h, l] := by
    simp only [Url.Percent.encodeByte, List.map_cons, List.map_nil, high, low, Utf8.encode,
      List.flatMap_cons, hb, lb]
    rfl
  rw [bytes, List.cons_append, List.cons_append, List.cons_append, List.nil_append,
    Url.Percent.decode_code hv lv, Nat.div_add_mod, UInt8.ofNat_toNat]

lemma plain_of_staysByte (h : staysByte b = true) : unplus (Char.ofNat b.toNat) = Char.ofNat b.toNat ∧
    String.utf8EncodeChar (Char.ofNat b.toNat) = [b] ∧ b ≠ 0x25 ∧
      Char.ofNat b.toNat ≠ '&' ∧ Char.ofNat b.toNat ≠ '=' := by
  have ascii : b.toNat < 128 := of_decide_eq_true (Bool.and_eq_true_iff.mp h).1
  have all : ∀ n < 128, staysByte (UInt8.ofNat n) = true → unplus (Char.ofNat n) = Char.ofNat n ∧
      String.utf8EncodeChar (Char.ofNat n) = [UInt8.ofNat n] ∧ UInt8.ofNat n ≠ 0x25 ∧
        Char.ofNat n ≠ '&' ∧ Char.ofNat n ≠ '=' := by
    decide +kernel
  have this := all b.toNat ascii
  rw [UInt8.ofNat_toNat] at this
  exact this h

lemma decode_encodeByte (b : UInt8) (rest : Bytes) :
    Url.Percent.decode (Utf8.encode ((encodeByte b).map unplus) ++ rest) =
      b :: Url.Percent.decode rest := by
  unfold encodeByte
  split_ifs with stays space
  · obtain ⟨same, byte, plain, -⟩ := plain_of_staysByte stays
    rw [List.map_singleton, same, Utf8.encode, List.flatMap_singleton, byte]
    exact Url.Percent.decode_plain plain rest
  · obtain rfl := beq_iff_eq.mp space
    exact Url.Percent.decode_plain (b := 0x20) (by decide) rest
  · exact decode_escaped b rest

lemma not_separator_encodeByte (hc : c ∈ encodeByte b) : c ≠ '&' ∧ c ≠ '=' := by
  unfold encodeByte at hc
  split_ifs at hc with stays space
  · obtain rfl := List.mem_singleton.mp hc
    exact (plain_of_staysByte stays).2.2.2
  · obtain rfl := List.mem_singleton.mp hc
    decide
  · have range := b.toNat_lt
    have digits : ∀ n < 16, upperHexDigit n ≠ '&' ∧ upperHexDigit n ≠ '=' := by decide
    simp only [Url.Percent.encodeByte, List.mem_cons, List.not_mem_nil, or_false] at hc
    rcases hc with rfl | rfl | rfl
    · decide
    · exact digits _ (by omega)
    · exact digits _ (by omega)

lemma decode_encodeBytes (bytes : Bytes) :
    Url.Percent.decode (Utf8.encode ((bytes.flatMap encodeByte).map unplus)) = bytes := by
  induction bytes with
  | nil => rfl
  | cons b bytes ih =>
    rw [List.flatMap_cons, List.map_append, Utf8.encode, List.flatMap_append]
    exact (decode_encodeByte b _).trans (congrArg (b :: ·) ih)

lemma decodeText_encodeText (s : String) : decodeText (encodeText s) = s := by
  have bytes : Url.Percent.decodeText ((encodeText s).map unplus) = Utf8.ofString s :=
    decode_encodeBytes (Utf8.ofString s)
  have read : decodeText (encodeText s) =
      String.ofList (Utf8.decodeLossy (Url.Percent.decodeText ((encodeText s).map unplus))) := rfl
  rw [read, bytes, Utf8.ofString, Utf8.decodeLossy_encode, String.ofList_toList]

lemma not_separator_encodeText {s : String} (hc : c ∈ encodeText s) : c ≠ '&' ∧ c ≠ '=' := by
  obtain ⟨b, -, hb⟩ := List.mem_flatMap.mp hc
  exact not_separator_encodeByte hb

lemma decodeField_encodeField (field : Field) : decodeField (encodeField field) = field := by
  have name : '=' ∉ encodeText field.1 := fun hm => (not_separator_encodeText hm).2 rfl
  rw [decodeField, encodeField, cutAt?_append name]
  simp only [decodeText_encodeText]

lemma not_mem_encodeField (field : Field) : '&' ∉ encodeField field := by
  intro hm
  rcases List.mem_append.mp hm with hm | hm
  · exact (not_separator_encodeText hm).1 rfl
  · rcases List.mem_cons.mp hm with equals | hm
    · cases equals
    · exact (not_separator_encodeText hm).1 rfl

lemma encodeField_ne_nil (field : Field) : encodeField field ≠ [] := by
  simp [encodeField]

theorem decode_encode (fields : List Field) : decode (encode fields) = fields := by
  unfold decode
  fun_induction encode fields with
  | case1 => rfl
  | case2 field =>
    rw [splitOn_eq_singleton (not_mem_encodeField field)]
    simp [encodeField_ne_nil, decodeField_encodeField]
  | case3 field rest _ ih =>
    rw [splitOn_append (not_mem_encodeField field)]
    simpa [encodeField_ne_nil, decodeField_encodeField] using ih

theorem encode_injective {fields fields' : List Field} (h : encode fields = encode fields') :
    fields = fields' := by
  rw [← decode_encode fields, h, decode_encode]

end Form

end RegistryLogin
