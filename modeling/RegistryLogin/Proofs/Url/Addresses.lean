import RegistryLogin.Proofs.Url.Domains

namespace RegistryLogin

open Text

variable {c : Char} {cs name label : List Char}

namespace Text

lemma getLast?_splitOn {separator : Char} (h : (splitOn separator cs).getLast? = some []) :
    cs = [] ∨ cs.getLast? = some separator := by
  induction cs using splitOn_induction separator with
  | last us hu =>
    rw [splitOn_eq_singleton hu] at h
    exact .inl (by simpa using h)
  | piece us ws hu ih =>
    rw [splitOn_append hu, List.getLast?_cons, Option.some.injEq] at h
    cases hs : (splitOn separator ws).getLast? with
    | none => exact absurd (List.getLast?_eq_none_iff.mp hs) (splitOn_ne_nil separator ws)
    | some label =>
      rw [hs] at h
      right
      rcases ih (by simpa [hs] using h) with rfl | hl
      · simp
      · simp [List.getLast?_append, List.getLast?_cons, hl]

end Text

namespace Url.Ipv4

def IsNumber (label : List Char) : Prop :=
  (label ≠ [] ∧ ∀ c ∈ label, c.isDigit = true) ∨
    ∃ x hex, (x = 'x' ∨ x = 'X') ∧ label = '0' :: x :: hex ∧ ∀ c ∈ hex, (hexValue? c).isSome = true

def EndsInNumber (name : List Char) : Prop :=
  ∃ label, (splitOn '.' name).getLast? = some label ∧ IsNumber label

def dotted (a b c d : Fin 256) : List Char :=
  Nat.toDigits 10 a ++ '.' :: Nat.toDigits 10 b ++ '.' :: Nat.toDigits 10 c ++ '.' :: Nat.toDigits 10 d

def IsDotted (name : List Char) : Prop := ∃ a b c d, name = dotted a b c d

lemma isDigit_of_octal (h : isOctal c = true) : c.isDigit = true := by
  simp only [isOctal, Bool.and_eq_true, decide_eq_true_eq, Char.le_def, UInt32.le_iff_toNat_le] at h
  simp only [Char.isDigit, Bool.and_eq_true, decide_eq_true_eq, ge_iff_le, UInt32.le_iff_toNat_le]
  change 48 ≤ c.val.toNat ∧ c.val.toNat ≤ 55 at h
  change 48 ≤ c.val.toNat ∧ c.val.toNat ≤ 57
  omega

lemma isNumber_of_number? (h : (number? label).isSome = true) : IsNumber label := by
  unfold number? at h
  split at h
  · cases h
  · rename_i hex
    exact .inr ⟨'x', hex, .inl rfl, rfl, List.all_eq_true.mp (Option.isSome_ite.mp h)⟩
  · rename_i hex
    exact .inr ⟨'X', hex, .inr rfl, rfl, List.all_eq_true.mp (Option.isSome_ite.mp h)⟩
  · have digits := List.all_eq_true.mp (Option.isSome_ite.mp h)
    refine .inl ⟨List.cons_ne_nil '0' _, ?_⟩
    rintro d (_ | ⟨_, hd⟩)
    · rfl
    · exact isDigit_of_octal (digits d hd)
  · rename_i nonempty _ _ _
    exact .inl ⟨nonempty, List.all_eq_true.mp (Option.isSome_ite.mp h)⟩

lemma isNumber_iff : IsNumber label ↔
    label ≠ [] ∧ (label.all isDecimal || (number? label).isSome) = true := by
  constructor
  · rintro (⟨nonempty, digits⟩ | ⟨x, hex, rfl | rfl, rfl, digits⟩)
    · exact ⟨nonempty, by simpa [isDecimal] using Or.inl digits⟩
    · have hex : hex.all isHex = true := List.all_eq_true.mpr digits
      exact ⟨List.cons_ne_nil '0' _, by simp [number?, hex]⟩
    · have hex : hex.all isHex = true := List.all_eq_true.mpr digits
      exact ⟨List.cons_ne_nil '0' _, by simp [number?, hex]⟩
  · rintro ⟨nonempty, h⟩
    rcases (Bool.or_eq_true _ _).mp h with digits | number
    · exact .inl ⟨nonempty, List.all_eq_true.mp digits⟩
    · exact isNumber_of_number? number

lemma labels_eq (h : (splitOn '.' name).getLast? ≠ some []) : labels name = splitOn '.' name := by
  rw [labels]
  split
  · rename_i label rest hr
    rw [← List.head?_reverse, hr] at h
    exact absurd rfl h
  · rw [List.reverse_reverse]

lemma endsInNumber_iff (h : (splitOn '.' name).getLast? ≠ some []) :
    endsInNumber name = true ↔ EndsInNumber name := by
  rw [endsInNumber, labels_eq h, EndsInNumber]
  cases hl : (splitOn '.' name).getLast? with
  | none => simp
  | some label =>
    cases label with
    | nil => exact absurd hl h
    | cons c label => simp [isNumber_iff]

lemma dotless_map_toLower (ascii : ∀ c ∈ name, c.toNat < 128) (nonempty : name ≠ [])
    (last : name.getLast? ≠ some '.') : (splitOn '.' (name.map Char.toLower)).getLast? ≠ some [] := by
  intro empty
  rcases getLast?_splitOn empty with empty | dot
  · exact nonempty (List.map_eq_nil_iff.mp empty)
  · rw [List.getLast?_map, Option.map_eq_some_iff] at dot
    obtain ⟨c, hc, lower⟩ := dot
    have same := ascii_forall (P := fun c => c.toLower = '.' → c = '.') (by decide)
      (ascii c (List.mem_of_getLast? hc)) lower
    exact last (same ▸ hc)

lemma dot_not_mem (a : Fin 256) : '.' ∉ Nat.toDigits 10 a := by
  revert a
  decide +kernel

lemma number?_toDigits (a : Fin 256) : number? (Nat.toDigits 10 a) = some a.val := by
  revert a
  decide +kernel

lemma splitOn_dotted (a b c d : Fin 256) : splitOn '.' (dotted a b c d) =
    [Nat.toDigits 10 a, Nat.toDigits 10 b, Nat.toDigits 10 c, Nat.toDigits 10 d] := by
  simp only [dotted, List.append_assoc, List.cons_append]
  rw [splitOn_append (dot_not_mem a), splitOn_append (dot_not_mem b), splitOn_append (dot_not_mem c),
    splitOn_eq_singleton (dot_not_mem d)]

lemma toText_eq_dotted (address : Nat) : ∃ a b c d, toText address = dotted a b c d :=
  ⟨⟨address / 16777216 % 256, Nat.mod_lt _ (by decide)⟩, ⟨address / 65536 % 256, Nat.mod_lt _ (by decide)⟩,
    ⟨address / 256 % 256, Nat.mod_lt _ (by decide)⟩, ⟨address % 256, Nat.mod_lt _ (by decide)⟩, rfl⟩

lemma combine_four (a b c d : Fin 256) : combine 4 [a.val, b.val, c.val, d.val] =
    some (16777216 * a.val + 65536 * b.val + 256 * c.val + d.val) := by
  change (if a.val < 256 then (if b.val < 256 then (if c.val < 256 then
      (if d.val < 256 then some d.val else none).map (c.val * 256 + ·) else none).map
      (b.val * 65536 + ·) else none).map (a.val * 16777216 + ·) else none) = _
  rw [if_pos a.isLt, if_pos b.isLt, if_pos c.isLt, if_pos d.isLt, Option.map_some, Option.map_some,
    Option.map_some, Option.some.injEq]
  omega

lemma parse?_dotted (a b c d : Fin 256) :
    parse? (dotted a b c d) = some (16777216 * a.val + 65536 * b.val + 256 * c.val + d.val) := by
  have last : (splitOn '.' (dotted a b c d)).getLast? ≠ some [] := by
    simp [splitOn_dotted, Nat.toDigits_ne_nil]
  have numbers : [Nat.toDigits 10 a, Nat.toDigits 10 b, Nat.toDigits 10 c, Nat.toDigits 10 d].mapM
      number? = some [a.val, b.val, c.val, d.val] := by
    simp [number?_toDigits]
  rw [parse?, labels_eq last, splitOn_dotted, numbers]
  exact combine_four a b c d

lemma toText_dotted (a b c d : Fin 256) :
    toText (16777216 * a.val + 65536 * b.val + 256 * c.val + d.val) = dotted a b c d := by
  have ha : (16777216 * a.val + 65536 * b.val + 256 * c.val + d.val) / 16777216 % 256 = a := by omega
  have hb : (16777216 * a.val + 65536 * b.val + 256 * c.val + d.val) / 65536 % 256 = b := by omega
  have hc : (16777216 * a.val + 65536 * b.val + 256 * c.val + d.val) / 256 % 256 = c := by omega
  have hd : (16777216 * a.val + 65536 * b.val + 256 * c.val + d.val) % 256 = d := by omega
  rw [toText, ha, hb, hc, hd, dotted]

lemma forall_mem_dotted (a b c d : Fin 256) :
    ∀ x ∈ dotted a b c d, (x.isDigit || x == '.') = true := by
  have digits : ∀ {a : Fin 256} {x : Char}, x ∈ Nat.toDigits 10 a → x.isDigit = true :=
    Nat.isDigit_of_mem_toDigits (by decide) (by decide)
  intro x hx
  simp only [dotted, List.mem_append, List.mem_cons] at hx
  rcases hx with ((hx | rfl | hx) | rfl | hx) | rfl | hx
  all_goals first | rfl | rw [digits hx, Bool.true_or]

lemma toLower_of_dotted (ascii : ∀ c ∈ name, c.toNat < 128) {a b c d : Fin 256}
    (h : name.map Char.toLower = dotted a b c d) : name = dotted a b c d := by
  have same : ∀ c ∈ name, c.toLower = c := by
    intro x hx
    have mark := forall_mem_dotted a b c d x.toLower (h ▸ List.mem_map_of_mem hx)
    exact ascii_forall (P := fun x => (x.toLower.isDigit || x.toLower == '.') = true → x.toLower = x)
      (by decide) (ascii x hx) mark
  rwa [List.map_congr_left same, List.map_id'] at h

lemma toLower_dotted (a b c d : Fin 256) : (dotted a b c d).map Char.toLower = dotted a b c d := by
  have same : ∀ x ∈ dotted a b c d, x.toLower = x := by
    intro x hx
    rcases (Bool.or_eq_true _ _).mp (forall_mem_dotted a b c d x hx) with digit | dot
    · have ascii := alphanum_ascii ((Bool.or_eq_true _ _).mpr (.inr digit))
      exact ascii_forall (P := fun x => x.isDigit = true → x.toLower = x) (by decide) ascii digit
    · rw [eq_of_beq dot]
      rfl
  rw [List.map_congr_left same, List.map_id']

end Url.Ipv4

open Url.Ipv4 in
theorem Host.toText_ofDomain {host : Host} (h : Host.ofDomain name = .ok host)
    (ascii : ∀ c ∈ name, c.toNat < 128) (plain : '%' ∉ name) (nonempty : name ≠ [])
    (last : name.getLast? ≠ some '.') :
    host.toText = name.map Char.toLower ↔
      (EndsInNumber (name.map Char.toLower) → IsDotted name) := by
  have dotless := dotless_map_toLower ascii nonempty last
  have read := (Host.ofDomain_ascii h ascii plain).2
  rw [← endsInNumber_iff dotless]
  split at read
  · rename_i number
    obtain ⟨address, parsed, rfl⟩ := read
    simp only [number, forall_const]
    constructor
    · intro shown
      obtain ⟨a, b, c, d, text⟩ := toText_eq_dotted address
      exact ⟨a, b, c, d, toLower_of_dotted ascii (shown.symm.trans text)⟩
    · rintro ⟨a, b, c, d, rfl⟩
      rw [toLower_dotted] at parsed ⊢
      obtain rfl := Option.some.inj ((parse?_dotted a b c d).symm.trans parsed)
      exact toText_dotted a b c d
  · rename_i number
    simp [read, toText, number]

end RegistryLogin
