import Mathlib.Data.List.TakeWhile
import RegistryLogin.Proofs.Url.Domains

namespace RegistryLogin.Url

open Text

variable {c : Char} {name digits : List Char} {port : Option (List Char)} {url : Url}

def https : List Char := ['h', 't', 't', 'p', 's']

def isHostChar (c : Char) : Bool := isPlain c || c == '_'

def isLocationChar (c : Char) : Bool := isHostChar c || c == ':'

lemma ascii_of_host (h : isHostChar c = true) : c.toNat < 128 := by
  simp only [isHostChar, isPlain, Bool.or_eq_true, beq_iff_eq] at h
  rcases h with ((h | rfl) | rfl) | rfl
  · exact alphanum_ascii h
  · decide
  · decide
  · decide

lemma location_of_host (h : isHostChar c = true) : isLocationChar c = true := by
  rw [isLocationChar, h, Bool.true_or]

lemma host_of_digit (h : c.isDigit = true) : isHostChar c = true := by
  simp [isHostChar, isPlain, Char.isAlphanum, h]

lemma visible_of_location (h : isLocationChar c = true) : 0x20 < c.toNat := by
  simp only [isLocationChar, isHostChar, Bool.or_eq_true, beq_iff_eq] at h
  rcases h with (h | rfl) | rfl
  · exact visible_of_plain h
  · decide
  · decide

lemma hostLength_eq (h : ∀ c ∈ name, isHostChar c = true) (port : Option (List Char)) :
    hostLength false (name ++ optionalText ':' port) = name.length := by
  induction name with
  | nil => cases port <;> rfl
  | cons c name ih =>
    have colon : c ≠ ':' := by
      rintro rfl
      exact absurd (h ':' List.mem_cons_self) (by decide)
    have bracket : c ≠ '[' := by
      rintro rfl
      exact absurd (h '[' List.mem_cons_self) (by decide)
    rw [List.cons_append, hostLength, if_neg (by simp [colon]), if_neg bracket, ite_self,
      ih fun d hd => h d (List.mem_cons_of_mem c hd), List.length_cons]

lemma port_digits (nonempty : digits ≠ []) (h : ∀ d ∈ digits, d.isDigit = true) :
    Url.port https digits = if 65535 < Ipv4.value 10 digits then .error .invalidPort
      else .ok ((some (Ipv4.value 10 digits)).filter (· ≠ 443), []) := by
  have web : defaultPort? https = some 443 := rfl
  rw [Url.port, List.takeWhile_eq_self_iff.mpr h, List.dropWhile_eq_nil_iff.mpr h, web]
  split
  · rfl
  · by_cases same : Ipv4.value 10 digits = 443
    · simp [same, Option.filter]
    · simp [same, Ne.symm same, nonempty, Option.filter]

lemma cutAtLast?_eq_none {cs : List Char} (h : '@' ∉ cs) : cutAtLast? cs = none := by
  induction cs with
  | nil => rfl
  | cons c cs ih =>
    simp only [List.mem_cons, not_or] at h
    rw [cutAtLast?, ih h.2, if_neg (Ne.symm h.1)]

structure Plain (name : List Char) (port : Option (List Char)) : Prop where
  nonempty : name ≠ []
  chars : ∀ c ∈ name, isHostChar c = true
  last : name.getLast? ≠ some '.'
  port : ∀ digits ∈ port, digits ≠ [] ∧ ∀ d ∈ digits, d.isDigit = true

lemma Plain.forall_mem (h : Plain name port) :
    ∀ c ∈ name ++ optionalText ':' port, isLocationChar c = true := by
  intro c hc
  rcases List.mem_append.mp hc with hc | hc
  · exact location_of_host (h.chars c hc)
  · cases port with
    | none => cases hc
    | some digits =>
      rcases List.mem_cons.mp hc with rfl | hc
      · rfl
      · exact location_of_host (host_of_digit ((h.port digits rfl).2 c hc))

lemma Plain.bracketed (h : Plain name port) : Host.bracketed? name = none := by
  obtain ⟨c, cs, rfl⟩ := List.exists_cons_of_ne_nil h.nonempty
  have bracket : c ≠ '[' := by
    rintro rfl
    exact absurd (h.chars '[' List.mem_cons_self) (by decide)
  unfold Host.bracketed?
  split
  · rename_i text
    exact absurd (List.cons.inj text).1 bracket
  · rfl

lemma Plain.ofDomain (h : Plain name port) {host : Host} (ok : Host.ofDomain name = .ok host) :
    host ≠ .none ∧
      if Ipv4.endsInNumber (name.map Char.toLower) then
        ∃ address, Ipv4.parse? (name.map Char.toLower) = some address ∧ host = .ipv4 address
      else host = .name (name.map Char.toLower) :=
  Host.ofDomain_ascii ok (fun c hc => ascii_of_host (h.chars c hc)) (not_mem_of_forall h.chars rfl)

lemma Plain.location_eq (h : Plain name port) : Url.location https [] [] (name ++ optionalText ':' port) =
    (Host.ofDomain name).bind fun host =>
      if ∀ digits ∈ port, Ipv4.value 10 digits ≤ 65535 then
        .ok (⟨[], [], host, (port.map (Ipv4.value 10)).filter (· ≠ 443)⟩, [])
      else .error .invalidPort := by
  have special : isSpecial https = true := by decide
  rw [Url.location, hostLength_eq h.chars, List.take_left, List.drop_left, special,
    if_neg (by simp [h.nonempty]), Host.parse, h.bracketed, if_pos rfl]
  cases domain : Host.ofDomain name with
  | error flaw => rfl
  | ok host =>
    have named := (h.ofDomain domain).1
    cases port with
    | none => simp [bind, Except.bind, named]
    | some digits =>
      obtain ⟨nonempty, all⟩ := h.port digits rfl
      simp only [bind, Except.bind, optionalText_some, named, if_false, port_digits nonempty all]
      by_cases large : 65535 < Ipv4.value 10 digits
      · simp [large, Nat.not_le_of_lt large]
      · simp [large, Nat.le_of_not_lt large]

lemma Plain.read_eq (h : Plain name port) :
    Url.read none ("https://".toList ++ (name ++ optionalText ':' port)) =
      (Url.location https [] [] (name ++ optionalText ':' port)).bind fun found =>
        .ok (withEnding ⟨https, some found.1, authorityPath https (pathText found.2), none, none⟩
          (afterPath found.2)) := by
  have plain := h.forall_mem
  generalize name ++ optionalText ':' port = text at plain
  have tidied : tidy ("https://".toList ++ text) = "https://".toList ++ text := by
    apply tidy_eq
    intro c hc
    rcases List.mem_append.mp hc with hc | hc
    · have visible : "https://".toList.all (0x20 < ·.toNat) = true := by decide
      exact of_decide_eq_true (List.all_eq_true.mp visible c hc)
    · exact visible_of_location (plain c hc)
  have scheme : scheme? ("https://".toList ++ text) = some (https, '/' :: '/' :: text) := rfl
  have delimiters : ∀ c ∈ text, isSlash c = false ∧ endsAuthority true c = false := by
    intro c hc
    have ne : ∀ d, isLocationChar d = false → c ≠ d := by
      rintro _ hd rfl
      rw [plain c hc] at hd
      cases hd
    simp [isSlash, endsAuthority, endsPath, ne '/' rfl, ne '\\' rfl, ne '?' rfl, ne '#' rfl]
  have slashes : ('/' :: '/' :: text).dropWhile isSlash = text := by
    change text.dropWhile isSlash = text
    cases text with
    | nil => rfl
    | cons c text => rw [List.dropWhile_cons_of_neg (by simp [delimiters c List.mem_cons_self])]
  have whole : text.takeWhile (!endsAuthority true ·) = text := by
    refine List.takeWhile_eq_self_iff.mpr fun c hc => ?_
    simp [(delimiters c hc).2]
  have unnamed : cutAtLast? text = none := cutAtLast?_eq_none (not_mem_of_forall plain rfl)
  have special : isSpecial https = true := by decide
  have remote : isFile https = false := by decide
  simp only [Url.read, tidied, scheme, absolute, Option.filter_none, remote, special, slashes,
    Bool.false_eq_true, if_false, if_true, afterSlashes, whole, unnamed, List.drop_length,
    List.append_nil]
  rfl

theorem Plain.read_iff (h : Plain name port) :
    Url.read none ("https://".toList ++ (name ++ optionalText ':' port)) = .ok url ↔
      (∀ digits ∈ port, Ipv4.value 10 digits ≤ 65535) ∧
        ∃ host, Host.ofDomain name = .ok host ∧
          url = ⟨https, some ⟨[], [], host, (port.map (Ipv4.value 10)).filter (· ≠ 443)⟩,
            .segments [[]], none, none⟩ := by
  rw [h.read_eq, h.location_eq]
  cases Host.ofDomain name with
  | error flaw => simp [Except.bind]
  | ok host =>
    by_cases bounded : ∀ digits ∈ port, Ipv4.value 10 digits ≤ 65535
    · simp only [Except.bind, if_pos bounded, Except.ok.injEq, exists_eq_left', eq_comm (a := url)]
      exact (and_iff_right bounded).symm
    · simp only [Except.bind, if_neg bounded, reduceCtorEq, false_iff, not_and]
      exact fun fits => absurd fits bounded

end RegistryLogin.Url
