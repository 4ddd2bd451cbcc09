import RegistryLogin.Proofs.Url.Numbers
import RegistryLogin.Proofs.Url.Servers

namespace RegistryLogin

open Text

variable {c : Char} {cs name label : List Char} {labels : List (List Char)}

namespace Url

lemma host_toLower (h : isHostChar c = true) : isHostChar c.toLower = true :=
  ascii_forall (P := fun c => isHostChar c = true → isHostChar c.toLower = true) (by decide)
    (ascii_of_host h) h

lemma forall_mem_map_toLower (h : ∀ c ∈ cs, isHostChar c = true) :
    ∀ c ∈ cs.map Char.toLower, isHostChar c = true ∧ c.toLower = c := by
  intro c hc
  obtain ⟨d, hd, rfl⟩ := List.mem_map.mp hc
  have ascii := ascii_of_host (h d hd)
  exact ⟨host_toLower (h d hd),
    ascii_forall (P := fun c => c.toLower.toLower = c.toLower) (by decide) ascii⟩

namespace Idna

/-- No label is one in Punycode, be it in upper or in lower case. -/
def Unencoded (name : List Char) : Prop :=
  ∀ label ∈ splitOn '.' name, (label.map Char.toLower).take 4 ≠ encodedStart

instance (name : List Char) : Decidable (Unencoded name) :=
  inferInstanceAs (Decidable (∀ label ∈ splitOn '.' name, (label.map Char.toLower).take 4 ≠ encodedStart))

lemma isValid_of_lower (ascii : c.toNat < 128) (lower : c.toLower = c) : isValid c = true := by
  rw [isValid, mapped?_ascii ascii, lower]
  exact beq_self_eq_true _

lemma joinersFit_ascii (h : ∀ c ∈ cs, c.toNat < 128) (before : List Char) :
    joinersFit before cs = true := by
  induction cs generalizing before with
  | nil => rfl
  | cons c cs ih =>
    obtain ⟨hc, further⟩ := List.forall_mem_cons.mp h
    have joiner : c.toNat ≠ 0x200D := by omega
    have nonJoiner : c.toNat ≠ 0x200C := by omega
    simp only [joinersFit, if_neg joiner, if_neg nonJoiner, ih further (c :: before), Bool.and_self]

lemma isProper_host (h : ∀ c ∈ label, isHostChar c = true ∧ c.toLower = c) : isProper label = true := by
  have ascii : ∀ c ∈ label, c.toNat < 128 := fun c hc => ascii_of_host (h c hc).1
  have chars : label.all (fun c => isValid c && !isForbidden c) = true := by
    rw [List.all_eq_true]
    intro c hc
    obtain ⟨host, lower⟩ := h c hc
    have allowed := ascii_forall (P := fun c => isHostChar c = true → isForbidden c = false) (by decide)
      (ascii c hc) host
    rw [isValid_of_lower (ascii c hc) lower, allowed]
    rfl
  have first : label.head?.any isMark = false := by
    cases label with
    | nil => rfl
    | cons c label =>
      have low := ascii c List.mem_cons_self
      simp only [List.head?_cons, Option.any_some, isMark, Bool.and_eq_false_iff, decide_eq_false_iff_not]
      exact .inl (by omega)
  rw [isProper, chars, composed_ascii ascii, first, joinersFit_ascii ascii, beq_self_eq_true]
  rfl

lemma label?_host (h : ∀ c ∈ label, isHostChar c = true ∧ c.toLower = c)
    (unencoded : label.take 4 ≠ encodedStart) : label? label = some ⟨label, label⟩ := by
  have ascii : isAscii label = true :=
    List.all_eq_true.mpr fun c hc => decide_eq_true (ascii_of_host (h c hc).1)
  rw [label?, if_neg unencoded, isProper_host h, if_pos ascii]
  rfl

lemma isRightToLeft_ascii (h : c.toNat < 128) : isRightToLeft c = false :=
  ascii_forall (P := fun c => isRightToLeft c = false) (by decide +kernel) h

theorem toAscii?_host (h : ∀ c ∈ cs, isHostChar c = true) (unencoded : Unencoded cs) :
    toAscii? cs = some (cs.map Char.toLower) := by
  have ascii : ∀ c ∈ cs, c.toNat < 128 := fun c hc => ascii_of_host (h c hc)
  have lower := forall_mem_map_toLower h
  have low : ∀ c ∈ cs.map Char.toLower, c.toNat < 128 := fun c hc => ascii_of_host (lower c hc).1
  have flat : (cs.map fun c => [c.toLower]).flatten = cs.map Char.toLower := by
    rw [← List.flatMap_def, ← List.map_eq_flatMap]
  have own : ∀ label ∈ splitOn '.' (cs.map Char.toLower), label? label = some ⟨label, label⟩ := by
    intro label hl
    refine label?_host (fun c hc => lower c (mem_of_mem_splitOn hl hc)) ?_
    rw [Ipv4.splitOn_map_toLower ascii] at hl
    obtain ⟨written, hw, rfl⟩ := List.mem_map.mp hl
    exact unencoded written hw
  have labelled : (splitOn '.' (cs.map Char.toLower)).mapM label? =
      some ((splitOn '.' (cs.map Char.toLower)).map fun label => ⟨label, label⟩) := mapM_eq_some_map own
  have leftToRight : (splitOn '.' (cs.map Char.toLower)).any (·.any isRightToLeft) = false := by
    rw [List.any_eq_false]
    intro label hl
    rw [List.any_eq_true]
    rintro ⟨c, hc, right⟩
    rw [isRightToLeft_ascii (low c (mem_of_mem_splitOn hl hc))] at right
    cases right
  simp only [toAscii?, mapM_mapped? ascii, flat, composed_ascii low, labelled,
    Option.bind_eq_bind, Option.bind_some, List.any_map, List.map_map, Function.comp_def, leftToRight]
  simp [joinLabels_splitOn]

end Idna

end Url

open Url.Ipv4 in
theorem Url.Plain.ofDomain_iff {port : Option (List Char)} (h : Url.Plain name port)
    (unencoded : Url.Idna.Unencoded name) :
    (∃ host, Host.ofDomain name = .ok host) ↔ (EndsInNumber name → IsAddress name) := by
  have ascii : ∀ c ∈ name, c.toNat < 128 := fun c hc => Url.ascii_of_host (h.chars c hc)
  have domain := Url.decodeText_ascii ascii (not_mem_of_forall h.chars rfl)
  have number := (endsInNumber_iff (dotless_map_toLower ascii h.nonempty h.last)).trans (endsInNumber_map_toLower ascii)
  obtain ⟨c, cs, lower⟩ := List.exists_cons_of_ne_nil (List.map_eq_nil_iff.not.mpr h.nonempty)
  rw [← number, ← parse?_isSome_iff, ← parse?_map_toLower ascii]
  rw [Host.ofDomain, domain, Url.Idna.toAscii?_host h.chars unencoded, lower]
  dsimp only
  cases endsInNumber (c :: cs) with
  | false => simp
  | true => cases parse? (c :: cs) <;> simp

end RegistryLogin
