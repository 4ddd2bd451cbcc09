import RegistryLogin.Proofs.Reference.Patterns
import RegistryLogin.Proofs.Url.References

namespace RegistryLogin

open Text
open Url (optionalText)

def Digest.spelling (digest : Digest) : List Char := digest.algorithm ++ ':' :: digest.hex

namespace Reference

variable {cs us ws front last : List Char} {tag : Option (List Char)} {parts : Parts}

structure Spells (cs : List Char) (parts : Parts) : Prop where
  text : cs = parts.name ++ optionalText ':' parts.tag ++ optionalText '@' (parts.digest.map Digest.spelling)
  name : parts.name ∈ Pattern.name
  tag : ∀ tag ∈ parts.tag, tag ∈ Pattern.tag
  digest : ∀ digest ∈ parts.digest,
    digest.algorithm ∈ Pattern.algorithm ∧ digest.hex ∈ Pattern.hex

structure Wellformed (cs : List Char) (parts : Parts) : Prop extends Spells cs parts where
  length : (locate parts.name).2.length ≤ longestRepository
  digits : ∀ digest ∈ parts.digest, digestDigits? digest.algorithm = some digest.hex.length

lemma forall_mem_name (h : us ∈ Pattern.name) :
    ∀ c ∈ us, (c.isAlphanum || ['-', '.', ':', '_', '/'].contains c) = true := by
  have components : ∀ ws ∈ Pattern.separated (Pattern.char (· == '/')) Pattern.component,
      ∀ c ∈ ws, (c.isAlphanum || ['-', '.', ':', '_', '/'].contains c) = true := by
    intro ws
    refine Pattern.forall_mem_separated ?_ ?_
    · rintro _ ⟨d, hd, rfl⟩ c hc
      obtain rfl := List.mem_singleton.mp hc
      simp [eq_of_beq hd]
    · intro us hu c hc
      rcases (Bool.or_eq_true _ _).mp (forall_mem_component hu c hc) with lower | mark
      · rw [alphanum_of_lower lower, Bool.true_or]
      · simp at mark ⊢
        tauto
  rw [Pattern.name, Pattern.optional_mul, Language.mem_add, mem_host_mul] at h
  rcases h with h | ⟨us, ws, hu, hw, rfl⟩
  · exact components us h
  · intro c hc
    rcases List.mem_append.mp hc with hc | hc
    · have h := forall_mem_host hu c hc
      simp at h ⊢
      tauto
    · rcases List.mem_cons.mp hc with rfl | hc
      · simp
      · exact components ws hw c hc

lemma forall_mem_tag (h : us ∈ Pattern.tag) : ∀ c ∈ us, (isWord c || c == '.' || c == '-') = true := by
  rw [← isTag_iff] at h
  cases us with
  | nil => cases h
  | cons c us =>
    simp only [isTag, Bool.and_eq_true, List.all_eq_true] at h
    rintro d (_ | ⟨_, hd⟩)
    · simp [h.1.1]
    · exact h.2 d hd

lemma forall_mem_algorithm (h : us ∈ Pattern.algorithm) :
    ∀ c ∈ us, (c.isAlphanum || ['-', '_', '+', '.'].contains c) = true := by
  refine Pattern.forall_mem_separated ?_ ?_ h
  · rintro _ ⟨d, hd, rfl⟩ c hc
    obtain rfl := List.mem_singleton.mp hc
    exact (Bool.or_eq_true _ _).mpr (.inr hd)
  · intro us hu c hc
    rw [mem_word, Bool.and_eq_true, List.all_eq_true] at hu
    rw [hu.2 c hc, Bool.true_or]

lemma slash_not_mem_tag (h : us ∈ Pattern.tag) : '/' ∉ us :=
  not_mem_of_forall (forall_mem_tag h) (by decide +kernel)

lemma slash_not_mem_spelling {digest : Digest} (ha : digest.algorithm ∈ Pattern.algorithm)
    (hh : digest.hex ∈ Pattern.hex) : '/' ∉ digest.spelling := by
  have hex : '/' ∉ digest.hex := by
    rw [← isHexDigest_iff, isHexDigest, Bool.and_eq_true, List.all_eq_true] at hh
    exact not_mem_of_forall hh.2 rfl
  have algorithm := not_mem_of_forall (d := '/') (forall_mem_algorithm ha) rfl
  simp [Digest.spelling, hex, algorithm]

lemma exists_component (h : us ∈ Pattern.name) :
    ∃ front last, us = front ++ last ∧ (front = [] ∨ ∃ ws, front = ws ++ ['/']) ∧
      last ∈ Pattern.component := by
  have components : ∀ ws ∈ Pattern.separated (Pattern.char (· == '/')) Pattern.component,
      ws ∈ Pattern.component ∨ ∃ us last, last ∈ Pattern.component ∧ ws = us ++ '/' :: last := by
    intro ws hw
    refine (Pattern.exists_last hw).imp_right ?_
    rintro ⟨us, -, _, ⟨d, hd, rfl⟩, last, hl, rfl⟩
    exact ⟨us, last, hl, by simp [eq_of_beq hd]⟩
  rw [Pattern.name, Pattern.optional_mul, Language.mem_add, mem_host_mul] at h
  rcases h with h | ⟨us, ws, -, hw, rfl⟩
  · rcases components us h with h | ⟨us, last, hl, rfl⟩
    · exact ⟨[], us, rfl, .inl rfl, h⟩
    · exact ⟨us ++ ['/'], last, by simp, .inr ⟨us, rfl⟩, hl⟩
  · rcases components ws hw with hw | ⟨ws, last, hl, rfl⟩
    · exact ⟨us ++ ['/'], ws, by simp, .inr ⟨us, rfl⟩, hw⟩
    · exact ⟨us ++ '/' :: ws ++ ['/'], last, by simp, .inr ⟨us ++ '/' :: ws, rfl⟩, hl⟩

lemma cutTag_of_none (hl : (cs.reverse.takeWhile (· ≠ '/')).reverse = last)
    (hc : cutAt? ':' last = none) : cutTag cs = (cs, none) := by
  simp only [cutTag, hl, hc]

lemma cutTag_of_some (hl : (cs.reverse.takeWhile (· ≠ '/')).reverse = last) (h : cs = front ++ last)
    {component behind : List Char} (hc : cutAt? ':' last = some (component, behind)) :
    cutTag cs = (front ++ component, some behind) := by
  have hf : cs.take (cs.length - last.length) = front := by simp [h]
  simp only [cutTag, hl, hc, hf]

lemma text_of_cutTag (cs : List Char) : cs = (cutTag cs).1 ++ optionalText ':' (cutTag cs).2 := by
  have h : cs = (cs.reverse.dropWhile (· ≠ '/')).reverse ++ (cs.reverse.takeWhile (· ≠ '/')).reverse := by
    rw [← List.reverse_append, List.takeWhile_append_dropWhile, List.reverse_reverse]
  cases hc : cutAt? ':' (cs.reverse.takeWhile (· ≠ '/')).reverse with
  | none =>
    rw [cutTag_of_none rfl hc]
    simp
  | some cut =>
    obtain ⟨component, behind⟩ := cut
    rw [cutTag_of_some rfl h hc]
    rw [(append_of_cutAt? hc).1] at h
    simpa using h

lemma cutTag_optionalText (hn : us ∈ Pattern.name) (ht : ∀ t ∈ tag, '/' ∉ t) :
    cutTag (us ++ optionalText ':' tag) = (us, tag) := by
  obtain ⟨front, last, rfl, hf, hl⟩ := exists_component hn
  have plain : '/' ∉ last ++ optionalText ':' tag := by
    have h := not_mem_of_forall (d := '/') (forall_mem_component hl) rfl
    cases tag with
    | none => simpa using h
    | some t => simpa [h] using ht t rfl
  have behind : (((front ++ (last ++ optionalText ':' tag)).reverse).takeWhile (· ≠ '/')).reverse =
      last ++ optionalText ':' tag := by
    have all : ∀ c ∈ (last ++ optionalText ':' tag).reverse, decide (c ≠ '/') = true := by
      intro c hc
      exact decide_eq_true fun he => plain (he ▸ List.mem_reverse.mp hc)
    rw [List.reverse_append, List.takeWhile_append_of_pos all]
    rcases hf with rfl | ⟨ws, rfl⟩ <;> simp
  have colon := not_mem_of_forall (d := ':') (forall_mem_component hl) rfl
  rw [List.append_assoc]
  cases tag with
  | none =>
    rw [cutTag_of_none behind (by simpa using cutAt?_eq_none colon)]
    simp
  | some t => rw [cutTag_of_some behind rfl (cutAt?_append colon)]

lemma digest?_eq_some_iff {digest : Digest} : digest? cs = some digest ↔
    cs = digest.spelling ∧ digest.algorithm ∈ Pattern.algorithm ∧ digest.hex ∈ Pattern.hex := by
  rw [digest?, ← isAlgorithm_iff, ← isHexDigest_iff]
  constructor
  · intro h
    obtain ⟨⟨algorithm, hex⟩, hc, h⟩ := Option.bind_eq_some_iff.mp h
    simp only [Option.ite_none_right_eq_some, Bool.and_eq_true, Option.some.injEq] at h
    obtain ⟨hd, rfl⟩ := h
    exact ⟨(append_of_cutAt? hc).1, hd⟩
  · rintro ⟨rfl, h⟩
    have plain := not_mem_of_forall (d := ':') (forall_mem_algorithm (isAlgorithm_iff.mp h.1)) rfl
    simp [Digest.spelling, cutAt?_append plain, h]

lemma at_not_mem (hn : us ∈ Pattern.name) (ht : ∀ t ∈ tag, t ∈ Pattern.tag) :
    '@' ∉ us ++ optionalText ':' tag := by
  have name := not_mem_of_forall (d := '@') (forall_mem_name hn) rfl
  cases tag with
  | none => simpa using name
  | some t =>
    have h := not_mem_of_forall (d := '@') (forall_mem_tag (ht t rfl)) (by decide +kernel)
    simp [name, h]

lemma cutTag_iff : cutTag cs = (us, tag) ∧ (isName us && tag.all isTag) = true ↔
    cs = us ++ optionalText ':' tag ∧ us ∈ Pattern.name ∧ ∀ t ∈ tag, t ∈ Pattern.tag := by
  have tags : tag.all isTag = true ↔ ∀ t ∈ tag, t ∈ Pattern.tag := by
    cases tag <;> simp [isTag_iff]
  rw [Bool.and_eq_true, isName_iff, tags]
  constructor
  · rintro ⟨cut, name, tag⟩
    have text := text_of_cutTag cs
    rw [cut] at text
    exact ⟨text, name, tag⟩
  · rintro ⟨rfl, name, tag⟩
    exact ⟨cutTag_optionalText name fun t ht => slash_not_mem_tag (tag t ht), name, tag⟩

theorem parts?_eq_some_iff : parts? cs = some parts ↔ Spells cs parts := by
  constructor
  · intro h
    rw [parts?] at h
    cases hc : cutAt? '@' cs with
    | none =>
      obtain ⟨us, tag, cut⟩ : ∃ us tag, cutTag cs = (us, tag) := ⟨_, _, rfl⟩
      simp only [hc, cut, Option.ite_none_right_eq_some, Option.some.injEq] at h
      obtain ⟨ok, rfl⟩ := h
      obtain ⟨text, name, tag⟩ := cutTag_iff.mp ⟨cut, ok⟩
      exact ⟨by simpa using text, name, tag, by simp⟩
    | some pieces =>
      obtain ⟨front, behind⟩ := pieces
      obtain ⟨us, tag, cut⟩ : ∃ us tag, cutTag front = (us, tag) := ⟨_, _, rfl⟩
      simp only [hc, cut] at h
      obtain ⟨digest, hd, h⟩ := Option.bind_eq_some_iff.mp h
      simp only [Option.ite_none_right_eq_some, Option.some.injEq] at h
      obtain ⟨ok, rfl⟩ := h
      obtain ⟨rfl, name, tag⟩ := cutTag_iff.mp ⟨cut, ok⟩
      obtain ⟨rfl, hex⟩ := digest?_eq_some_iff.mp hd
      exact ⟨(append_of_cutAt? hc).1, name, tag, by simpa using hex⟩
  · obtain ⟨us, t, d⟩ := parts
    rintro ⟨rfl, name, tag, digest⟩
    obtain ⟨cut, ok⟩ := cutTag_iff.mpr ⟨rfl, name, tag⟩
    have plain := at_not_mem name tag
    rw [parts?]
    cases d with
    | none =>
      rw [Option.map_none, Url.optionalText_none, List.append_nil, cutAt?_eq_none plain]
      simp only [cut, ok, if_true]
    | some d =>
      have read := digest?_eq_some_iff.mpr ⟨rfl, digest d rfl⟩
      rw [Option.map_some, Url.optionalText_some, cutAt?_append plain]
      simp only [cut, ok, if_true, read]
      rfl

lemma slash_not_mem_behind (h : Spells cs parts) :
    '/' ∉ optionalText ':' parts.tag ++ optionalText '@' (parts.digest.map Digest.spelling) := by
  rw [List.mem_append, not_or]
  constructor
  · cases ht : parts.tag with
    | none => simp
    | some tag => simp [slash_not_mem_tag (h.tag tag ht)]
  · cases hd : parts.digest with
    | none => simp
    | some digest =>
      obtain ⟨algorithm, hex⟩ := h.digest digest hd
      simp [slash_not_mem_spelling algorithm hex]

lemma registryPart?_eq_some_iff : registryPart? cs = some (us, ws) ↔
    cs = us ++ '/' :: ws ∧ '/' ∉ us ∧ namesRegistry us = true := by
  rw [registryPart?, Option.filter_eq_some_iff]
  constructor
  · rintro ⟨cut, names⟩
    obtain ⟨rfl, plain⟩ := append_of_cutAt? cut
    exact ⟨rfl, plain, names⟩
  · rintro ⟨rfl, plain, names⟩
    exact ⟨cutAt?_append plain, names⟩

lemma registryPart?_append (h : '/' ∉ ws) :
    (registryPart? (us ++ ws)).map (·.1) = (registryPart? us).map (·.1) := by
  cases hc : cutAt? '/' us with
  | none =>
    have plain : '/' ∉ us ++ ws := by simp [not_mem_of_cutAt? hc, h]
    simp [registryPart?, hc, cutAt?_eq_none plain]
  | some pieces =>
    obtain ⟨first, rest⟩ := pieces
    obtain ⟨rfl, plain⟩ := append_of_cutAt? hc
    rw [List.append_assoc, List.cons_append, registryPart?, registryPart?, hc, cutAt?_append plain]
    cases hn : namesRegistry first <;> simp [Option.filter, hn]

def Parts.reference (parts : Parts) : Reference where
  registry := (locate parts.name).1
  repository := (locate parts.name).2
  tag := if parts.digest.isSome then parts.tag else some (parts.tag.getD "latest".toList)
  digest := parts.digest

lemma checkDigest_eq_ok_iff {digest : Digest} : checkDigest digest = .ok () ↔
    digestDigits? digest.algorithm = some digest.hex.length := by
  rw [checkDigest]
  cases digestDigits? digest.algorithm with
  | none => simp
  | some n =>
    by_cases hn : digest.hex.length = n
    · simp [hn]
    · simp [hn, Ne.symm hn]

theorem parse_eq_ok_iff {reference : Reference} : parse cs = .ok reference ↔
    ∃ parts, Wellformed cs parts ∧ parts.reference = reference := by
  constructor
  · intro h
    rw [parse] at h
    cases hp : parts? cs with
    | none => simp [hp] at h
    | some parts =>
      obtain ⟨name, tag, digest⟩ := parts
      simp only [hp] at h
      split at h
      · cases h
      rename_i length
      have spells := parts?_eq_some_iff.mp hp
      have length := Nat.le_of_not_lt length
      cases digest with
      | none =>
        obtain rfl := Except.ok.inj h
        exact ⟨_, ⟨spells, length, by simp⟩, rfl⟩
      | some d =>
        cases hd : checkDigest d with
        | error flaw =>
          simp only [hd] at h
          cases h
        | ok =>
          simp only [hd] at h
          obtain rfl := Except.ok.inj h
          refine ⟨_, ⟨spells, length, ?_⟩, rfl⟩
          rintro _ ⟨⟩
          exact checkDigest_eq_ok_iff.mp hd
  · rintro ⟨parts, wellformed, rfl⟩
    have read := parts?_eq_some_iff.mpr wellformed.toSpells
    have length := Nat.not_lt.mpr wellformed.length
    obtain ⟨name, tag, digest⟩ := parts
    rw [parse, read]
    simp only [if_neg length]
    cases digest with
    | none => rfl
    | some d =>
      simp only [checkDigest_eq_ok_iff.mpr (wellformed.digits d rfl)]
      rfl

end Reference

end RegistryLogin
