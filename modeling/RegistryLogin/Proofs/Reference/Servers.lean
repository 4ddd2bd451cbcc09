import Mathlib.Data.Nat.Digits.Defs
import RegistryLogin.Proofs.Reference.Hosts
import RegistryLogin.Proofs.Url.Addresses
import RegistryLogin.Proofs.Url.Servers

namespace RegistryLogin.Reference

open Text
open Url (optionalText https)

variable {cs us ws digits : List Char} {reference host : String}

lemma plain_of_chars {c : Char} (last : us.getLast? = some c) (alphanum : c.isAlphanum = true)
    (chars : ∀ c ∈ us, Url.isHostChar c = true) {port : Option (List Char)}
    (hp : ∀ digits ∈ port, digits ≠ [] ∧ ∀ d ∈ digits, d.isDigit = true) : Url.Plain us port where
  nonempty := by
    rintro rfl
    cases last
  chars := chars
  last := by
    rw [last]
    rintro ⟨⟩
    cases alphanum
  port := hp

lemma plain_of_component (h : us ∈ Pattern.component) : Url.Plain us none := by
  obtain ⟨c, last, lower⟩ := getLast?_component h
  refine plain_of_chars last (alphanum_of_lower lower) (fun c hc => ?_) (by simp)
  rcases (Bool.or_eq_true _ _).mp (forall_mem_component h c hc) with lower | mark
  · simp [Url.isHostChar, Url.isPlain, alphanum_of_lower lower]
  · simp [Url.isHostChar, Url.isPlain] at mark ⊢
    tauto

lemma plain_of_labels (h : us ∈ Pattern.separated (Pattern.char (· == '.')) Pattern.hostLabel)
    {port : Option (List Char)} (hp : ∀ digits ∈ port, digits ≠ [] ∧ ∀ d ∈ digits, d.isDigit = true) :
    Url.Plain us port := by
  obtain ⟨c, last, alphanum⟩ := getLast?_labels h
  refine plain_of_chars last alphanum (fun c hc => ?_) hp
  rw [Url.isHostChar, Url.isPlain, forall_mem_labels h c hc, Bool.true_or]

lemma plain_of_host (h : us ∈ Pattern.host) :
    ∃ name port, us = name ++ optionalText ':' port ∧ Url.Plain name port := by
  obtain ⟨name, labels, behind, hb, rfl⟩ := Language.mem_mul.mp h
  rcases Pattern.mem_optional.mp hb with rfl | hb
  · exact ⟨name, none, rfl, plain_of_labels labels (by simp)⟩
  · obtain ⟨_, rfl, digits, hd, rfl⟩ := Language.mem_mul.mp hb
    exact ⟨name, some digits, rfl, plain_of_labels labels (by simpa using Pattern.mem_many_char.mp hd)⟩

lemma plain_of_registryPart {parts : Parts} (wellformed : Wellformed cs parts)
    (part : registryPart? cs = some (us, ws)) :
    ∃ name port, us = name ++ optionalText ':' port ∧ Url.Plain name port := by
  have named := wellformed.registry
  rw [part, Option.map_some, eq_comm, Option.map_eq_some_iff] at named
  obtain ⟨⟨first, rest⟩, registry, rfl⟩ := named
  obtain ⟨text, plain, -⟩ := registryPart?_eq_some_iff.mp registry
  have name := isName_iff.mpr wellformed.name
  simp only [text, isName, splitOn_append plain, Bool.and_eq_true, Bool.or_eq_true] at name
  rcases name.1 with component | host
  · exact ⟨_, none, by simp, plain_of_component (isComponent_iff.mp component)⟩
  · exact plain_of_host (isHost_iff.mp host.2)

lemma plain_of_resolveHost (h : resolveHost reference = .ok host) :
    ∃ name port, host.toList = name ++ optionalText ':' port ∧ Url.Plain name port := by
  obtain ⟨⟨ws, part⟩, ⟨parsed, parses⟩, -⟩ := resolveHost_eq_ok_iff.mp h
  obtain ⟨parts, wellformed, -⟩ := parse_eq_ok_iff.mp parses
  exact plain_of_registryPart wellformed part

def decimal (digits : List Char) : ℕ := Nat.ofDigits 10 (digits.reverse.map fun d => d.toNat - 48)

lemma hexValue?_digit {c : Char} (h : c.isDigit = true) : hexValue? c = some (c.toNat - 48) := by
  simp only [Char.isDigit, Bool.and_eq_true, decide_eq_true_eq] at h
  rw [hexValue?, if_pos (show '0' ≤ c ∧ c ≤ '9' from h)]

lemma value_eq_decimal (h : ∀ d ∈ digits, d.isDigit = true) : Url.Ipv4.value 10 digits = decimal digits := by
  rw [decimal, Nat.ofDigits_eq_foldr, List.foldr_map, List.foldr_reverse, Url.Ipv4.value]
  apply List.foldl_ext
  intro n d hd
  rw [hexValue?_digit (h d hd), Option.getD_some, Nat.cast_id, Nat.add_comm]

lemma cutAt?_optionalText {name : List Char} (port : Option (List Char)) (plain : ':' ∉ name) :
    cutAt? ':' (name ++ optionalText ':' port) = port.map (name, ·) := by
  cases port with
  | none => simpa using cutAt?_eq_none plain
  | some digits => exact cutAt?_append plain

lemma optionalText_unique {name name' : List Char} {port port' : Option (List Char)} (h : ':' ∉ name)
    (h' : ':' ∉ name') (text : name ++ optionalText ':' port = name' ++ optionalText ':' port') :
    name' = name ∧ port' = port := by
  have cut := cutAt?_optionalText port h
  rw [text, cutAt?_optionalText port' h'] at cut
  cases port with
  | none =>
    obtain rfl := Option.map_eq_none_iff.mp cut
    simpa using text.symm
  | some digits =>
    obtain ⟨_, rfl, same⟩ := Option.map_eq_some_iff.mp cut
    obtain ⟨rfl, rfl⟩ := Prod.mk.inj same
    exact ⟨rfl, rfl⟩

lemma server_of_resolveHost (h : resolveHost reference = .ok host) :
    ∃ name port address url, host.toList = name ++ optionalText ':' port ∧ Url.Plain name port ∧
      serverUrl host = .ok url ∧ (∀ digits ∈ port, Url.Ipv4.value 10 digits ≤ 65535) ∧
      Host.ofDomain name = .ok address ∧
      url = ⟨https, some ⟨[], [], address, (port.map (Url.Ipv4.value 10)).filter (· ≠ 443)⟩,
        .segments [[]], none, none⟩ := by
  obtain ⟨name, port, text, plain⟩ := plain_of_resolveHost h
  obtain ⟨-, -, url, parsed⟩ := resolveHost_eq_ok_iff.mp h
  have read := parsed
  rw [serverUrl, Url.parse, String.toList_append, text] at read
  obtain ⟨bounded, address, domain, shape⟩ := plain.read_iff.mp read
  exact ⟨name, port, address, url, text, plain, parsed, bounded, domain, shape⟩

lemma resolveHost_loopback : resolveHost "127.0.0.1:0443/app" = .ok "127.0.0.1:0443" := by
  decide +kernel

theorem serverUrl_of_resolveHost (h : resolveHost reference = .ok host) :
    ∃ name port url authority, host.toList = name ++ optionalText ':' port ∧ ':' ∉ name ∧
      (∀ digits ∈ port, digits ≠ [] ∧ (∀ d ∈ digits, d.isDigit = true) ∧ decimal digits ≤ 65535) ∧
      serverUrl host = .ok url ∧ url.scheme = https ∧ url.path.toText = ['/'] ∧ url.query = none ∧
      url.fragment = none ∧ url.authority = some authority ∧ authority.username = [] ∧
      authority.password = [] ∧ authority.port = (port.map decimal).filter (· ≠ 443) := by
  obtain ⟨name, port, address, url, text, plain, parsed, bounded, -, rfl⟩ := server_of_resolveHost h
  have same : ∀ digits ∈ port, Url.Ipv4.value 10 digits = decimal digits :=
    fun digits hd => value_eq_decimal (plain.port digits hd).2
  refine ⟨name, port, _, _, text, not_mem_of_forall plain.chars rfl, ?_, parsed, rfl, rfl, rfl, rfl, rfl,
    rfl, rfl, ?_⟩
  · intro digits hd
    obtain ⟨nonempty, all⟩ := plain.port digits hd
    exact ⟨nonempty, all, same digits hd ▸ bounded digits hd⟩
  · cases port with
    | none => rfl
    | some digits => rw [Option.map_some, Option.map_some, same digits rfl]

theorem serverUrl_of_resolveHost_loopback :
    resolveHost "127.0.0.1:0443/app" = .ok "127.0.0.1:0443" ∧
      ∃ url authority, serverUrl "127.0.0.1:0443" = .ok url ∧ url.authority = some authority ∧
        authority.port = none := by
  obtain ⟨name, port, url, authority, text, plain, -, parsed, -, -, -, -, located, -, -, number⟩ :=
    serverUrl_of_resolveHost resolveHost_loopback
  obtain ⟨rfl, rfl⟩ : name = "127.0.0.1".toList ∧ port = some "0443".toList :=
    optionalText_unique (by decide) plain text
  exact ⟨resolveHost_loopback, url, authority, parsed, located, number.trans (by decide)⟩

open Url.Ipv4 in
theorem host_as_written_iff (h : resolveHost reference = .ok host) :
    ∃ name port url authority, host.toList = name ++ optionalText ':' port ∧ ':' ∉ name ∧
      serverUrl host = .ok url ∧ url.authority = some authority ∧
      (authority.host.toText = name.map Char.toLower ↔
        (EndsInNumber (name.map Char.toLower) → IsDotted name)) := by
  obtain ⟨name, port, address, url, text, plain, parsed, -, domain, rfl⟩ := server_of_resolveHost h
  refine ⟨name, port, _, _, text, not_mem_of_forall plain.chars rfl, parsed, rfl, ?_⟩
  exact Host.toText_ofDomain domain (fun c hc => Url.ascii_of_host (plain.chars c hc))
    (not_mem_of_forall plain.chars rfl) plain.nonempty plain.last

theorem host_as_written_iff_loopback :
    resolveHost "127.0.0.1:0443/app" = .ok "127.0.0.1:0443" ∧
      ∃ url authority, serverUrl "127.0.0.1:0443" = .ok url ∧ url.authority = some authority ∧
        authority.host.toText = "127.0.0.1".toList := by
  obtain ⟨name, port, url, authority, text, plain, parsed, located, written⟩ :=
    host_as_written_iff resolveHost_loopback
  obtain ⟨rfl, rfl⟩ : name = "127.0.0.1".toList ∧ port = some "0443".toList :=
    optionalText_unique (by decide) plain text
  exact ⟨resolveHost_loopback, url, authority, parsed, located,
    written.mpr fun _ => ⟨127, 0, 0, 1, rfl⟩⟩

theorem host_as_written_octal :
    ¬ ∀ reference host name port url authority, resolveHost reference = .ok host →
      host.toList = name ++ optionalText ':' port → ':' ∉ name → serverUrl host = .ok url →
      url.authority = some authority → authority.host.toText = name.map Char.toLower := by
  intro h
  have parsed : serverUrl "010.0.0.1" =
      .ok ⟨https, some ⟨[], [], .ipv4 0x08000001, none⟩, .segments [[]], none, none⟩ := by
    decide +kernel
  have resolved : resolveHost "010.0.0.1/app" = .ok "010.0.0.1" :=
    resolveHost_eq_ok_iff.mpr ⟨⟨"app".toList, rfl⟩, ⟨_, rfl⟩, _, parsed⟩
  have shown := h _ _ "010.0.0.1".toList none _ _ resolved (by decide) (by decide) parsed rfl
  revert shown
  decide

end RegistryLogin.Reference
