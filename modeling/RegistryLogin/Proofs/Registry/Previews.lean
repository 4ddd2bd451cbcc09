import RegistryLogin.Proofs.Text.Encoding
import RegistryLogin.Registry.Exchange

namespace RegistryLogin

namespace Text.Utf8

variable {b : UInt8} {bytes rest : Bytes}

lemma piece_append (h : (piece b rest).more < rest.length) (further : Bytes) :
    piece b (rest ++ further) = piece b rest := by
  rcases rest with _ | ⟨c, _ | ⟨d, _ | ⟨e, rest⟩⟩⟩
  · simp at h
  · simp only [piece, List.cons_append, List.nil_append] at h ⊢
    split_ifs at h ⊢ <;> simp at h ⊢
  · simp only [piece, List.cons_append, List.nil_append] at h ⊢
    split_ifs at h ⊢ <;> simp at h ⊢
  · rfl

lemma chars_cons (b : UInt8) (rest : Bytes) :
    chars (b :: rest) = (piece b rest).char :: chars (rest.drop (piece b rest).more) := by
  rw [chars]

lemma chars_ne_nil (h : bytes ≠ []) : chars bytes ≠ [] := by
  obtain ⟨b, rest, rfl⟩ := List.exists_cons_of_ne_nil h
  simp [chars_cons]

theorem chars_append (h : bytes ≠ []) (further : Bytes) :
    ∃ later, later ≠ [] ∧ chars (bytes ++ further) = (chars bytes).dropLast ++ later := by
  fun_induction chars bytes with
  | case1 => exact absurd rfl h
  | case2 b rest ih =>
    by_cases last : rest.drop (piece b rest).more = []
    · refine ⟨chars (b :: rest ++ further), chars_ne_nil (by simp), ?_⟩
      rw [last, chars]
      rfl
    · obtain ⟨later, some, split⟩ := ih last
      have inside : (piece b rest).more < rest.length := by
        rwa [List.drop_eq_nil_iff, Nat.not_le] at last
      refine ⟨later, some, ?_⟩
      rw [List.cons_append, chars_cons, piece_append inside,
        List.drop_append_of_le_length (Nat.le_of_lt inside), split,
        List.dropLast_cons_of_ne_nil (chars_ne_nil last), List.cons_append]

theorem decodeLossy_append {n : Nat} (h : n < (decodeLossy bytes).length) (further : Bytes) :
    n < (decodeLossy (bytes ++ further)).length ∧
      (decodeLossy (bytes ++ further)).take n = (decodeLossy bytes).take n := by
  have filled : bytes ≠ [] := by
    rintro rfl
    simp [decodeLossy, chars] at h
  obtain ⟨later, some, split⟩ := chars_append filled further
  have front : n ≤ (chars bytes).dropLast.length := by
    rw [decodeLossy, List.length_map] at h
    rw [List.length_dropLast]
    omega
  have more := List.length_pos_iff.mpr some
  constructor
  · rw [decodeLossy, List.length_map, split, List.length_append]
    omega
  · rw [decodeLossy, decodeLossy, ← List.map_take, ← List.map_take, split,
      List.take_append_of_le_length front, List.dropLast_eq_take, List.take_take, Nat.min_eq_left]
    rwa [List.length_dropLast] at front

end Text.Utf8

namespace ExchangeResponse

open Text

variable {body : Bytes}

lemma preview_short (h : (Utf8.decodeLossy body).length ≤ 256) :
    preview body = String.ofList (Utf8.decodeLossy body) := by
  rw [preview, previewLimit, if_pos h]

lemma preview_long (h : 256 < (Utf8.decodeLossy body).length) :
    preview body = String.ofList ((Utf8.decodeLossy body).take 256 ++ ['…']) := by
  rw [preview, previewLimit, if_neg (Nat.not_le.mpr h)]

lemma length_preview_le (body : Bytes) : (preview body).length ≤ 257 := by
  rcases Nat.lt_or_ge 256 (Utf8.decodeLossy body).length with long | short
  · rw [preview_long long, String.length_ofList, List.length_append, List.length_take,
      List.length_singleton]
    omega
  · rw [preview_short short, String.length_ofList]
    omega

lemma decodeLossy_ofString (text : String) : Utf8.decodeLossy (Utf8.ofString text) = text.toList :=
  Utf8.decodeLossy_encode text.toList

/-- A preview is short, shows a text as it is or how it begins, and once it leaves something out it does not
change when the body goes on. -/
theorem preview_settled (body : Bytes) :
    (preview body).length ≤ 257 ∧
      (∀ text : String, body = Utf8.ofString text → text.length ≤ 256 → preview body = text) ∧
      (∀ text : String, body = Utf8.ofString text → 256 < text.length →
        preview body = String.ofList (text.toList.take 256 ++ ['…'])) ∧
      (256 < (Utf8.decodeLossy body).length → ∀ further, preview (body ++ further) = preview body) := by
  refine ⟨length_preview_le body, ?_, ?_, ?_⟩
  · rintro text rfl short
    rw [← String.length_toList, ← decodeLossy_ofString] at short
    rw [preview_short short, decodeLossy_ofString, String.ofList_toList]
  · rintro text rfl long
    rw [← String.length_toList, ← decodeLossy_ofString] at long
    rw [preview_long long, decodeLossy_ofString]
  · intro long further
    obtain ⟨longer, same⟩ := Utf8.decodeLossy_append long further
    rw [preview_long longer, same, preview_long long]

theorem preview_settled_halfEuro :
    let long := String.ofList (List.replicate 256 'é')
    let body := Utf8.ofString long ++ [0xE2, 0x82]
    preview (Utf8.ofString long) = long ∧
      preview (Utf8.ofString (long ++ "!")) = String.ofList (List.replicate 256 'é' ++ ['…']) ∧
      256 < (Utf8.decodeLossy body).length ∧ preview (body ++ [0xAC]) = preview body := by
  intro long body
  have cut : 256 < (Utf8.decodeLossy body).length := by
    change 256 < (Utf8.decodeLossy (Utf8.encode long.toList ++ [0xE2, 0x82])).length
    rw [Utf8.decodeLossy, Utf8.chars_encode_append, List.length_map, List.length_append, List.length_map,
      String.toList_ofList, List.length_replicate]
    exact Nat.lt_add_of_pos_right (List.length_pos_iff.mpr (Utf8.chars_ne_nil (by simp)))
  have length : long.length = 256 := by rw [String.length_ofList, List.length_replicate]
  have begins : (long ++ "!").toList.take 256 = List.replicate 256 'é' := by
    rw [String.toList_append, String.toList_ofList, List.take_left' List.length_replicate]
  refine ⟨(preview_settled _).2.1 long rfl (Nat.le_of_eq length), ?_, cut,
    (preview_settled body).2.2.2 cut [0xAC]⟩
  rw [← begins]
  apply (preview_settled _).2.2.1 (long ++ "!") rfl
  rw [String.length_append, length]
  decide

end ExchangeResponse

end RegistryLogin
