import Mathlib.Data.Option.Basic
import RegistryLogin.Proofs.Text.Encoding
import RegistryLogin.Proofs.Text.Splitting
import RegistryLogin.Proofs.Url.References

namespace RegistryLogin

open Text

variable {c : Char} {cs us : List Char}

lemma alphanum_ascii (h : c.isAlphanum = true) : c.toNat < 128 := by
  have bounds : ((65 ≤ c.toNat ∧ c.toNat ≤ 90) ∨ (97 ≤ c.toNat ∧ c.toNat ≤ 122)) ∨
      (48 ≤ c.toNat ∧ c.toNat ≤ 57) := by
    rcases (Bool.or_eq_true _ _).mp h with alpha | digit
    · left
      rcases (Bool.or_eq_true _ _).mp alpha with upper | lower
      · exact .inl (of_decide_eq_true upper)
      · obtain ⟨least, most⟩ := (Bool.and_eq_true _ _).mp lower
        exact .inr ⟨of_decide_eq_true least, of_decide_eq_true most⟩
    · obtain ⟨least, most⟩ := (Bool.and_eq_true _ _).mp digit
      exact .inr ⟨of_decide_eq_true least, of_decide_eq_true most⟩
  omega

lemma toLower_ascii (hc : c.toNat < 128) : c.toLower.toNat < 128 :=
  ascii_forall (P := fun c => c.toLower.toNat < 128) (by decide) hc

namespace Url

lemma Percent.decode_eq {bytes : Bytes} (h : (0x25 : UInt8) ∉ bytes) : Percent.decode bytes = bytes := by
  induction bytes with
  | nil => rfl
  | cons b bytes ih =>
    have hb : (b == 0x25) = false := by
      rw [beq_eq_false_iff_ne]
      rintro rfl
      exact h List.mem_cons_self
    rw [Percent.decode.eq_def]
    simp only [hb, ih fun hm => h (List.mem_cons_of_mem b hm)]

lemma decodeText_ascii (h : ∀ c ∈ cs, c.toNat < 128) (plain : '%' ∉ cs) :
    Utf8.decodeLossy (Percent.decodeText cs) = cs := by
  have unescaped : (0x25 : UInt8) ∉ cs.map fun c => UInt8.ofNat c.toNat := by
    intro hm
    obtain ⟨c, hc, byte⟩ := List.mem_map.mp hm
    have percent : c = '%' :=
      ascii_forall (P := fun c => UInt8.ofNat c.toNat = 0x25 → c = '%') (by decide) (h c hc) byte
    exact plain (percent ▸ hc)
  rw [Percent.decodeText, Utf8.encode_ascii h, Percent.decode_eq unescaped, ← Utf8.encode_ascii h,
    Utf8.decodeLossy_encode]

namespace Idna

lemma mapped?_ascii (hc : c.toNat < 128) : mapped? c = some [c.toLower] :=
  ascii_forall (P := fun c => mapped? c = some [c.toLower]) (by decide +kernel) hc

lemma mapM_eq_some_map {α β : Type} {as : List α} {f : α → Option β} {g : α → β}
    (h : ∀ a ∈ as, f a = some (g a)) : as.mapM f = some (as.map g) := by
  induction as with
  | nil => rfl
  | cons a as ih =>
    obtain ⟨first, further⟩ := List.forall_mem_cons.mp h
    rw [List.mapM_cons, first, ih further]
    rfl

lemma mapM_mapped? (h : ∀ c ∈ cs, c.toNat < 128) :
    cs.mapM mapped? = some (cs.map fun c => [c.toLower]) :=
  mapM_eq_some_map fun c hc => mapped?_ascii (h c hc)

lemma joinLabels_splitOn (cs : List Char) : joinLabels (splitOn '.' cs) = cs := by
  induction cs using splitOn_induction '.' with
  | last us hu => rw [splitOn_eq_singleton hu, joinLabels]
  | piece us ws hu ih =>
    rw [splitOn_append hu]
    cases hw : splitOn '.' ws with
    | nil => exact absurd hw (splitOn_ne_nil '.' ws)
    | cons w rest =>
      rw [joinLabels, ← hw, ih]
      exact List.cons_ne_nil w rest

lemma label?_ascii {label : List Char} {l : Label} (h : label? label = some l)
    (ascii : isAscii label = true) : l.ascii = label := by
  rw [label?] at h
  split at h
  · simp only [Option.bind_eq_bind, Option.bind_eq_some_iff] at h
    obtain ⟨-, -, shown, -, -, -, h⟩ := h
    obtain rfl := Option.some.inj h
    rfl
  · obtain ⟨-, -, h⟩ := Option.bind_eq_some_iff.mp h
    obtain rfl := Option.some.inj h
    rfl

lemma mapM_label? {labels : List (List Char)} {results : List Label}
    (h : labels.mapM label? = some results) (ascii : ∀ label ∈ labels, isAscii label = true) :
    results.map (·.ascii) = labels := by
  induction labels generalizing results with
  | nil =>
    obtain rfl := Option.some.inj h
    rfl
  | cons label labels ih =>
    simp only [List.mapM_cons, Option.bind_eq_bind, Option.bind_eq_some_iff] at h
    obtain ⟨first, hf, rest, hr, h⟩ := h
    obtain rfl := Option.some.inj h
    rw [List.map_cons, label?_ascii hf (ascii label List.mem_cons_self),
      ih hr fun l hl => ascii l (List.mem_cons_of_mem label hl)]

lemma composed_ascii (h : ∀ c ∈ cs, c.toNat < 128) : composed cs = cs := by
  rw [composed, if_pos]
  rw [List.all_eq_true]
  intro c hc
  have := h c hc
  exact decide_eq_true (by omega)

theorem toAscii?_ascii {domain : List Char} (h : toAscii? cs = some domain)
    (ascii : ∀ c ∈ cs, c.toNat < 128) : domain = cs.map Char.toLower := by
  have lower : (cs.map fun c => [c.toLower]).flatten = cs.map Char.toLower := by
    rw [← List.flatMap_def, ← List.map_eq_flatMap]
  have low : ∀ c ∈ cs.map Char.toLower, c.toNat < 128 := by
    intro c hc
    obtain ⟨d, hd, rfl⟩ := List.mem_map.mp hc
    exact toLower_ascii (ascii d hd)
  have pieces : ∀ label ∈ splitOn '.' (cs.map Char.toLower), isAscii label = true := by
    intro label hl
    rw [isAscii, List.all_eq_true]
    exact fun c hc => decide_eq_true (low c (mem_of_mem_splitOn hl hc))
  simp only [toAscii?, mapM_mapped? ascii, lower, Option.bind_eq_bind, Option.bind_some,
    composed_ascii low, Option.bind_eq_some_iff] at h
  obtain ⟨labels, hl, h⟩ := h
  split at h
  · cases h
  · obtain rfl := Option.some.inj h
    rw [mapM_label? hl pieces, joinLabels_splitOn]

end Idna

end Url

theorem Host.ofDomain_ascii {host : Host} (h : Host.ofDomain cs = .ok host)
    (ascii : ∀ c ∈ cs, c.toNat < 128) (plain : '%' ∉ cs) :
    host ≠ .none ∧
      if Url.Ipv4.endsInNumber (cs.map Char.toLower) then
        ∃ address, Url.Ipv4.parse? (cs.map Char.toLower) = some address ∧ host = .ipv4 address
      else host = .name (cs.map Char.toLower) := by
  rw [ofDomain, Url.decodeText_ascii ascii plain] at h
  cases hd : Url.Idna.toAscii? cs with
  | none => simp [hd] at h
  | some domain =>
    obtain rfl := Url.Idna.toAscii?_ascii hd ascii
    cases hl : cs.map Char.toLower with
    | nil => simp [hd, hl] at h
    | cons d ds =>
      simp only [hd, hl] at h
      split at h
      · rename_i number
        rw [if_pos number]
        cases hp : Url.Ipv4.parse? (d :: ds) with
        | none => simp [hp] at h
        | some address =>
          simp only [hp] at h
          obtain rfl := Except.ok.inj h
          exact ⟨by simp [Host.none], address, rfl, rfl⟩
      · rename_i name
        rw [if_neg name]
        obtain rfl := Except.ok.inj h
        exact ⟨by simp [Host.none], rfl⟩

end RegistryLogin
