import RegistryLogin.Proofs.Reference.Servers
import RegistryLogin.Proofs.Url.Names

/-! Which registries are refused. -/

namespace RegistryLogin.Reference

open Text
open Url (optionalText)
open Url.Ipv4 (EndsInNumber IsAddress)

variable {reference host : String} {name : List Char} {port : Option (List Char)}

/-- A well-formed reference that begins with a registry. -/
structure NamesHost (reference host : String) : Prop where
  wellformed : ∃ parts, Wellformed reference.toList parts
  first : ∃ rest, reference = host ++ "/" ++ rest
  whole : '/' ∉ host.toList
  explicit : '.' ∈ host.toList ∨ ':' ∈ host.toList ∨ host = "localhost"

lemma NamesHost.registryPart (h : NamesHost reference host) :
    ∃ ws, registryPart? reference.toList = some (host.toList, ws) := by
  obtain ⟨rest, text⟩ := h.first
  exact registryPart?_toList.mpr ⟨⟨rest, text, h.whole⟩, h.explicit⟩

lemma NamesHost.parses (h : NamesHost reference host) :
    ∃ parsed, parse reference.toList = .ok parsed := by
  obtain ⟨parts, wellformed⟩ := h.wellformed
  exact ⟨_, parse_eq_ok_iff.mpr ⟨parts, wellformed, rfl⟩⟩

lemma NamesHost.ok_iff (h : NamesHost reference host) :
    resolveHost reference = .ok host ↔ ∃ url, serverUrl host = .ok url := by
  rw [resolveHost_eq_ok_iff, and_iff_right h.registryPart, and_iff_right h.parses]

lemma NamesHost.invalid_iff (h : NamesHost reference host) :
    resolveHost reference = .error (.invalidRegistry host) ↔ ¬ ∃ url, serverUrl host = .ok url := by
  obtain ⟨ws, part⟩ := h.registryPart
  obtain ⟨parsed, parses⟩ := h.parses
  have nonempty : reference.isEmpty = false := by
    obtain ⟨rest, rfl⟩ := h.first
    simp
  rw [resolveHost, nonempty]
  simp only [Bool.false_eq_true, if_false, part, parses, String.ofList_toList]
  cases serverUrl host <;> simp

lemma NamesHost.plain (h : NamesHost reference host) (text : host.toList = name ++ optionalText ':' port)
    (colon : ':' ∉ name) : Url.Plain name port := by
  obtain ⟨ws, part⟩ := h.registryPart
  obtain ⟨parts, wellformed⟩ := h.wellformed
  obtain ⟨name', port', text', plain⟩ := plain_of_registryPart wellformed part
  rw [text] at text'
  obtain ⟨rfl, rfl⟩ := optionalText_unique colon (not_mem_of_forall plain.chars rfl) text'
  exact plain

def Unusable (name : List Char) (port : Option (List Char)) : Prop :=
  (∃ digits ∈ port, 65535 < decimal digits) ∨ (EndsInNumber name ∧ ¬ IsAddress name)

lemma serverUrl_iff (plain : Url.Plain name port) (unencoded : Url.Idna.Unencoded name)
    (text : host.toList = name ++ optionalText ':' port) :
    (∃ url, serverUrl host = .ok url) ↔ ¬ Unusable name port := by
  have bounded : (∀ digits ∈ port, Url.Ipv4.value 10 digits ≤ 65535) ↔
      ¬ ∃ digits ∈ port, 65535 < decimal digits := by
    simp only [not_exists, not_and, Nat.not_lt]
    refine forall₂_congr fun digits hd => ?_
    rw [value_eq_decimal (plain.port digits hd).2]
  have address : (EndsInNumber name → IsAddress name) ↔ ¬ (EndsInNumber name ∧ ¬ IsAddress name) := by
    rw [not_and, not_not]
  rw [serverUrl, Url.parse, String.toList_append, text, Unusable, not_or, ← bounded, ← address,
    ← plain.ofDomain_iff unencoded]
  simp only [plain.read_iff]
  constructor
  · rintro ⟨-, bounded, address, domain, -⟩
    exact ⟨bounded, address, domain⟩
  · rintro ⟨bounded, address, domain⟩
    exact ⟨_, bounded, address, domain, rfl⟩

theorem resolveHost_invalid_iff (names : NamesHost reference host)
    (text : host.toList = name ++ optionalText ':' port) (colon : ':' ∉ name)
    (unencoded : Url.Idna.Unencoded name) :
    (resolveHost reference = .error (.invalidRegistry host) ↔ Unusable name port) ∧
      (resolveHost reference = .ok host ↔ ¬ Unusable name port) := by
  have usable := serverUrl_iff (names.plain text colon) unencoded text
  exact ⟨names.invalid_iff.trans (usable.not.trans not_not), names.ok_iff.trans usable⟩

lemma namesHost_of_parse {parsed : Reference} (rest : String) (h : parse reference.toList = .ok parsed)
    (first : reference = host ++ "/" ++ rest) (whole : '/' ∉ host.toList)
    (explicit : '.' ∈ host.toList ∨ ':' ∈ host.toList ∨ host = "localhost") :
    NamesHost reference host := by
  obtain ⟨parts, wellformed, -⟩ := parse_eq_ok_iff.mp h
  exact ⟨⟨parts, wellformed⟩, ⟨rest, first⟩, whole, explicit⟩

theorem resolveHost_invalid_iff_octal :
    NamesHost "1.2.3.0400/app" "1.2.3.0400" ∧ NamesHost "0X7F.1:00443/app" "0X7F.1:00443" ∧
      resolveHost "1.2.3.0400/app" = .error (.invalidRegistry "1.2.3.0400") ∧
      resolveHost "0X7F.1:00443/app" = .ok "0X7F.1:00443" := by
  have octal : NamesHost "1.2.3.0400/app" "1.2.3.0400" := by
    have parsed : (parse "1.2.3.0400/app".toList).toOption = some
      ⟨"1.2.3.0400".toList, "app".toList, some "latest".toList, none⟩ := by decide +kernel
    exact namesHost_of_parse "app" (ok_of_toOption parsed) rfl (by decide) (.inl (by decide))
  have hexadecimal : NamesHost "0X7F.1:00443/app" "0X7F.1:00443" := by
    have parsed : (parse "0X7F.1:00443/app".toList).toOption = some
      ⟨"0X7F.1:00443".toList, "app".toList, some "latest".toList, none⟩ := by decide +kernel
    exact namesHost_of_parse "app" (ok_of_toOption parsed) rfl (by decide) (.inl (by decide))
  have portless : "1.2.3.0400".toList = "1.2.3.0400".toList ++ optionalText ':' none := by decide
  have ported : "0X7F.1:00443".toList =
      "0X7F.1".toList ++ optionalText ':' (some "00443".toList) := by decide
  refine ⟨octal, hexadecimal, ?_, ?_⟩
  · refine (resolveHost_invalid_iff octal portless (by decide) (by decide)).1.mpr (.inr ⟨?_, ?_⟩)
    · exact (Url.Ipv4.endsInNumber_iff (by decide)).mp (by decide)
    · rw [← Url.Ipv4.parse?_isSome_iff]
      decide
  · refine (resolveHost_invalid_iff hexadecimal ported (by decide) (by decide)).2.mpr ?_
    rintro (⟨_, ⟨⟩, large⟩ | ⟨-, strange⟩)
    · revert large
      decide
    · exact strange (Url.Ipv4.parse?_isSome_iff.mp (by decide))

theorem resolveHost_invalid_uppercase : ¬ ∀ (reference host : String) (name : List Char)
    (port : Option (List Char)), NamesHost reference host → host.toList = name ++ optionalText ':' port →
    ':' ∉ name → (∀ label ∈ splitOn '.' name, label.take 4 ≠ Url.Idna.encodedStart) →
    (resolveHost reference = .error (.invalidRegistry host) ↔ Unusable name port) := by
  intro h
  have names : NamesHost "XN--0.io/app" "XN--0.io" := by
    have parsed : (parse "XN--0.io/app".toList).toOption = some
      ⟨"XN--0.io".toList, "app".toList, some "latest".toList, none⟩ := by decide +kernel
    exact namesHost_of_parse "app" (ok_of_toOption parsed) rfl (by decide) (.inl (by decide))
  have refused : resolveHost "XN--0.io/app" = .error (.invalidRegistry "XN--0.io") := by decide +kernel
  have unusable := (h "XN--0.io/app" "XN--0.io" "XN--0.io".toList none names (by decide) (by decide)
    (by decide)).mp refused
  rcases unusable with ⟨_, ⟨⟩, -⟩ | ⟨number, -⟩
  have named : Url.Ipv4.endsInNumber "XN--0.io".toList = false := by decide
  rw [← Url.Ipv4.endsInNumber_iff (by decide), named] at number
  cases number

end RegistryLogin.Reference
