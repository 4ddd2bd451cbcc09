import RegistryLogin.Proofs.Json.Records
import RegistryLogin.Proofs.Json.Writing
import RegistryLogin.Proofs.Time.Parts

namespace RegistryLogin

open Json Text

namespace Json

variable {n least greatest : Int} (range : least ≤ n ∧ n ≤ greatest)
include range

lemma integer_ofInt {width : Width} (wide : width.least ≤ least ∧ greatest ≤ width.greatest) :
    Node.integer width (Node.ofValue (Value.ofInt n)) = .ok n := by
  rw [Value.ofInt]
  split
  · exact fit_eq_ok_iff.mpr (by omega)
  · exact fit_eq_ok_iff.mpr (by omega)

lemma exact_ofInt (small : -9223372036854775808 ≤ least ∧ greatest ≤ 9223372036854775807) :
    (Value.ofInt n).Exact := by
  rw [Value.ofInt]
  split
  · have fits : (Number.negative n.natAbs).Exact := ⟨by omega, by omega⟩
    exact .number fits
  · have fits : n.natAbs ≤ Numeral.largest := by
      unfold Numeral.largest
      omega
    exact .number (show (Number.natural n.natAbs).Exact from fits)

end Json

namespace Instant

lemma ordinal_le (i : Instant) : 1 ≤ i.ordinal ∧ i.ordinal ≤ 366 := by
  obtain ⟨least, most⟩ := i.parts_inRange.days
  have length : Calendar.daysIn i.year ≤ 366 := by
    unfold Calendar.daysIn
    split <;> decide
  exact ⟨least, Int.le_trans most length⟩

theorem read_parts (i : Instant) :
    read (Node.ofValue (.array (i.parts.map Value.ofInt))) = .ok i := by
  have part {name : String} {width : Width} {n : Nat} {value least greatest : Int}
      (found : (Node.ofValues (i.parts.map Value.ofInt))[n]? = some (Node.ofValue (Value.ofInt value)))
      (range : least ≤ value ∧ value ≤ greatest)
      (wide : width.least ≤ least ∧ greatest ≤ width.greatest) :
      requiredItem (.missingPart name) (Node.integer width) (Node.ofValues (i.parts.map Value.ofInt))
        .closed n = .ok value :=
    requiredItem_eq_ok_iff.mpr ⟨_, found, integer_ofInt range wide⟩
  have range := i.parts_inRange
  refine bind_eq_ok_iff.mpr ⟨_, part (n := 0) rfl range.years (by decide), ?_⟩
  refine bind_eq_ok_iff.mpr ⟨_, part (n := 1) rfl i.ordinal_le (by decide), ?_⟩
  refine bind_eq_ok_iff.mpr ⟨_, part (n := 2) rfl range.hours (by decide), ?_⟩
  refine bind_eq_ok_iff.mpr ⟨_, part (n := 3) rfl range.minutes (by decide), ?_⟩
  refine bind_eq_ok_iff.mpr ⟨_, part (n := 4) rfl range.seconds (by decide), ?_⟩
  refine bind_eq_ok_iff.mpr ⟨_, part (n := 5) rfl range.nanoseconds (by decide), ?_⟩
  refine bind_eq_ok_iff.mpr ⟨_, part (n := 6) rfl range.offsetHours (by decide), ?_⟩
  refine bind_eq_ok_iff.mpr ⟨_, part (n := 7) rfl range.offsetMinutes (by decide), ?_⟩
  refine bind_eq_ok_iff.mpr ⟨_, part (n := 8) rfl range.offsetSeconds (by decide), ?_⟩
  refine bind_eq_ok_iff.mpr ⟨i, i.ofParts_parts, ?_⟩
  exact bind_eq_ok_iff.mpr ⟨(), endArray_eq_ok_iff.mpr ⟨Nat.le_refl 9, rfl⟩, rfl⟩

lemma exact_parts (i : Instant) : (Value.array (i.parts.map Value.ofInt)).Exact := by
  have range := i.parts_inRange
  refine .array ?_
  simp only [parts, List.map_cons, List.map_nil, List.forall_mem_cons]
  exact ⟨exact_ofInt range.years (by decide), exact_ofInt i.ordinal_le (by decide),
    exact_ofInt range.hours (by decide), exact_ofInt range.minutes (by decide),
    exact_ofInt range.seconds (by decide), exact_ofInt range.nanoseconds (by decide),
    exact_ofInt range.offsetHours (by decide), exact_ofInt range.offsetMinutes (by decide),
    exact_ofInt range.offsetSeconds (by decide), by simp⟩

end Instant

namespace IdentityToken

lemma exact_toValue (token : IdentityToken) : token.toValue.Exact := by
  refine .object ?_
  simp only [List.forall_mem_cons]
  exact ⟨.string _, token.expiresOn.exact_parts, by simp⟩

theorem read_toValue (token : IdentityToken) : read (Node.ofValue token.toValue) = .ok token := by
  have secret : Draft.visit ⟨none, none⟩ (String.ofList "access_token".toList)
      (.string (some token.accessToken.text.toList)) = .ok ⟨some token.accessToken.text, none⟩ := by
    simp [Draft.visit, fill, Node.text, Reading.within, Except.map]
  have expiry : Draft.visit ⟨some token.accessToken.text, none⟩ (String.ofList "expires_on".toList)
      (Node.ofValue (.array (token.expiresOn.parts.map Value.ofInt))) =
        .ok ⟨some token.accessToken.text, some token.expiresOn⟩ := by
    simp [Draft.visit, fill, token.expiresOn.read_parts, Reading.within, Except.map]
  refine bind_eq_ok_iff.mpr ⟨⟨some token.accessToken.text, some token.expiresOn⟩, ?_, rfl⟩
  refine visitMembers_cons_eq_ok_iff.mpr ⟨_, secret, ?_⟩
  exact visitMembers_cons_eq_ok_iff.mpr ⟨_, expiry, rfl⟩

/-- The text of a token is read as that token, down to the offset of its expiry, and holds nine integers
that pass the checks. -/
theorem ofJson_toJson (token : IdentityToken) : ofJson token.toJson = .ok token ∧
    ∃ value year ordinal hour minute second nanosecond offsetHours offsetMinutes offsetSeconds,
      Value.ofBytes? (Utf8.ofString token.toJson) = some value ∧
      value.member? "access_token" = some (.string token.accessToken.text) ∧
      value.member? "expires_on" = some (.array ([year, ordinal, hour, minute, second, nanosecond,
        offsetHours, offsetMinutes, offsetSeconds].map Value.ofInt)) ∧
      Instant.InRange year ordinal hour minute second nanosecond offsetHours offsetMinutes
        offsetSeconds ∧
      Instant.ofParts year ordinal hour minute second nanosecond offsetHours offsetMinutes
        offsetSeconds = .ok token.expiresOn := by
  refine ⟨?_, token.toValue, _, _, _, _, _, _, _, _, _, ?_, rfl, rfl, token.expiresOn.parts_inRange,
    token.expiresOn.ofParts_parts⟩
  · have document := ofBytes_toText token.exact_toValue
    refine bind_eq_ok_iff.mpr ⟨token, ?_, ?_⟩
    · rw [toJson, document, read_toValue]
    · rw [toJson, document]
      rfl
  · exact Value.ofBytes?_toText token.exact_toValue

end IdentityToken

end RegistryLogin
