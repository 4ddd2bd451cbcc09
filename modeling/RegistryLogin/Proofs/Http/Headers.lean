import RegistryLogin.Http.Metadata
import RegistryLogin.Proofs.Text.Encoding
import RegistryLogin.Proofs.Text.Splitting

namespace RegistryLogin

open Text

namespace Header

variable {b : UInt8} {c : Char} {value : Bytes} {cs text : List Char} {name : String} {header : Header}

def IsPlain (cs : List Char) : Prop := ∀ c ∈ cs, c = '\t' ∨ ' ' ≤ c ∧ c ≤ '~'

instance : Decidable (IsPlain cs) := List.decidableBAll _ cs

def Shows (value : Bytes) (text : List Char) : Prop :=
  ∃ cs, value = Utf8.encode cs ∧ IsPlain cs ∧ Strips cs text

def IsNamed (name : String) (header : Header) : Prop :=
  ∃ cs, header.name = Utf8.encode cs ∧ cs.map Char.toLower = name.toList

lemma plain_iff : (c = '\t' ∨ ' ' ≤ c ∧ c ≤ '~') ↔ c.toNat = 9 ∨ 32 ≤ c.toNat ∧ c.toNat ≤ 126 := by
  rw [← Char.toNat_inj]
  exact Iff.rfl

lemma toNat_ascii (h : b.toNat < 128) : (Char.ofNat b.toNat).toNat = b.toNat :=
  Utf8.toNat_char (.inl (by omega))

lemma chars_ascii (h : ∀ b ∈ value, b.toNat < 128) :
    ∀ c ∈ value.map fun b => Char.ofNat b.toNat, c.toNat < 128 := by
  intro c hc
  obtain ⟨b, hb, rfl⟩ := List.mem_map.mp hc
  rw [toNat_ascii (h b hb)]
  exact h b hb

lemma encode_bytes (h : ∀ b ∈ value, b.toNat < 128) :
    Utf8.encode (value.map fun b => Char.ofNat b.toNat) = value := by
  rw [Utf8.encode_ascii (chars_ascii h), List.map_map]
  refine (List.map_congr_left fun b hb => ?_).trans (List.map_id value)
  rw [Function.comp_apply, toNat_ascii (h b hb), UInt8.ofNat_toNat, id]

lemma bytes_encode (h : ∀ c ∈ cs, c.toNat < 128) :
    (Utf8.encode cs).map (fun b => Char.ofNat b.toNat) = cs := by
  rw [Utf8.encode_ascii h, List.map_map]
  refine (List.map_congr_left fun c hc => ?_).trans (List.map_id cs)
  have := h c hc
  rw [Function.comp_apply, Utf8.toNat_byte (by omega), Char.ofNat_toNat, id]

lemma IsPlain.ascii (h : IsPlain cs) : ∀ c ∈ cs, c.toNat < 128 := by
  intro c hc
  have := plain_iff.mp (h c hc)
  omega

theorem text?_eq_some_iff : text? value = some cs ↔ value = Utf8.encode cs ∧ IsPlain cs := by
  have plain (b : UInt8) : (b == 0x09 || (0x20 ≤ b.toNat && b.toNat < 0x7F)) = true ↔
      b.toNat = 9 ∨ 32 ≤ b.toNat ∧ b.toNat ≤ 126 := by
    rw [Bool.or_eq_true, beq_iff_eq, ← UInt8.toNat_inj]
    simp [Nat.lt_succ_iff]
  rw [text?]
  constructor
  · intro h
    split at h
    · rename_i all
      obtain rfl := Option.some.inj h
      have range : ∀ b ∈ value, b.toNat = 9 ∨ 32 ≤ b.toNat ∧ b.toNat ≤ 126 := fun b hb =>
        (plain b).mp (List.all_eq_true.mp all b hb)
      have ascii : ∀ b ∈ value, b.toNat < 128 := by
        intro b hb
        have := range b hb
        omega
      refine ⟨(encode_bytes ascii).symm, fun c hc => ?_⟩
      obtain ⟨b, hb, rfl⟩ := List.mem_map.mp hc
      rw [plain_iff, toNat_ascii (ascii b hb)]
      exact range b hb
    · cases h
  · rintro ⟨rfl, shown⟩
    rw [if_pos, bytes_encode shown.ascii]
    refine List.all_eq_true.mpr fun b hb => (plain b).mpr ?_
    rw [Utf8.encode_ascii shown.ascii] at hb
    obtain ⟨c, hc, rfl⟩ := List.mem_map.mp hb
    have := shown.ascii c hc
    rw [Utf8.toNat_byte (by omega)]
    exact plain_iff.mp (shown c hc)

lemma lower_ascii (h : c.toNat < 128) :
    lower (UInt8.ofNat c.toNat) = UInt8.ofNat c.toLower.toNat ∧ c.toLower.toNat < 128 :=
  ascii_forall (P := fun c => lower (UInt8.ofNat c.toNat) = UInt8.ofNat c.toLower.toNat ∧
    c.toLower.toNat < 128) (by decide +kernel) h

lemma encode_toLower (h : ∀ c ∈ cs, c.toNat < 128) :
    Utf8.encode (cs.map Char.toLower) = (Utf8.encode cs).map lower := by
  have ascii : ∀ c ∈ cs.map Char.toLower, c.toNat < 128 := by
    intro c hc
    obtain ⟨d, hd, rfl⟩ := List.mem_map.mp hc
    exact (lower_ascii (h d hd)).2
  rw [Utf8.encode_ascii h, Utf8.encode_ascii ascii, List.map_map, List.map_map]
  exact List.map_congr_left fun c hc => (lower_ascii (h c hc)).1.symm

lemma ascii_of_lower (h : (lower b).toNat < 128) : b.toNat < 128 := by
  rw [lower] at h
  split at h
  · omega
  · exact h

lemma ascii_of_toLower (h : c.toLower.toNat < 128) : c.toNat < 128 := by
  by_cases upper : c.val ≥ 'A'.val ∧ c.val ≤ 'Z'.val
  · have : c.toNat ≤ 90 := upper.2
    omega
  · have same : c.toLower = c := dif_neg upper
    rwa [same] at h

lemma hasName_iff (plain : name.toList.all (·.toNat < 128) = true)
    (same : name.toList.map Char.toLower = name.toList) :
    header.hasName name = true ↔ header.IsNamed name := by
  have ascii : ∀ c ∈ name.toList, c.toNat < 128 := fun c hc =>
    of_decide_eq_true (List.all_eq_true.mp plain c hc)
  rw [hasName, beq_iff_eq, Utf8.ofString, ← encode_toLower ascii, same]
  constructor
  · intro h
    have bytes : ∀ b ∈ header.name, b.toNat < 128 := by
      intro b hb
      have hm := List.mem_map_of_mem (f := lower) hb
      rw [h, Utf8.encode_ascii ascii] at hm
      obtain ⟨c, hc, hb⟩ := List.mem_map.mp hm
      have := ascii c hc
      apply ascii_of_lower
      rwa [← hb, Utf8.toNat_byte (by omega)]
    have spelled := encode_bytes bytes
    refine ⟨_, spelled.symm, ?_⟩
    rw [← Utf8.decodeLossy_encode (List.map _ _), encode_toLower (chars_ascii bytes), spelled, h,
      Utf8.decodeLossy_encode]
  · rintro ⟨cs, spelled, folded⟩
    rw [spelled, ← encode_toLower, folded]
    intro c hc
    apply ascii_of_toLower
    apply ascii
    rw [← folded]
    exact List.mem_map_of_mem hc

lemma first?_append {before after : List Header} {header : Header} (others : ∀ h ∈ before, hasName name h = false)
    (named : hasName name header = true) : first? name (before ++ header :: after) = some header.value := by
  have none : before.find? (hasName name) = none := by
    refine List.find?_eq_none.mpr fun h hm => ?_
    rw [others h hm]
    exact Bool.false_ne_true
  rw [first?, List.find?_append, none, Option.none_or, List.find?_cons_of_pos named, Option.map_some]

end Header

end RegistryLogin
