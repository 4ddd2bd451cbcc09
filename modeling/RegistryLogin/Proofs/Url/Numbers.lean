import Mathlib.Data.List.Forall2
import RegistryLogin.Proofs.Url.Addresses

/-! The numbers that an address is made of, and which texts are addresses. -/

namespace RegistryLogin

open Text

variable {c : Char} {cs name label : List Char} {n : Nat} {numbers : List Nat}

namespace Text

lemma splitOn_map {separator : Char} {f : Char → Char} (h : ∀ c ∈ cs, f c = separator ↔ c = separator) :
    splitOn separator (cs.map f) = (splitOn separator cs).map (List.map f) := by
  induction cs with
  | nil => rfl
  | cons c cs ih =>
    obtain ⟨hc, further⟩ := List.forall_mem_cons.mp h
    have ih := ih further
    by_cases mark : c = separator
    · have marked : f c = separator := hc.mpr mark
      simp only [List.map_cons, splitOn, if_pos mark, if_pos marked, ih, List.map_nil]
    · have other : ¬ f c = separator := fun same => mark (hc.mp same)
      cases hs : splitOn separator cs with
      | nil => exact absurd hs (splitOn_ne_nil separator cs)
      | cons piece pieces =>
        rw [hs] at ih
        simp only [List.map_cons, splitOn, if_neg mark, if_neg other, ih, hs]

end Text

namespace Url.Ipv4

inductive Denotes : List Char → Nat → Prop
  | hexadecimal {x : Char} {hex : List Char} (mark : x = 'x' ∨ x = 'X')
      (digits : ∀ d ∈ hex, isHex d = true) : Denotes ('0' :: x :: hex) (value 16 hex)
  | octal {octal : List Char} (nonempty : octal ≠ []) (digits : ∀ d ∈ octal, isOctal d = true) :
    Denotes ('0' :: octal) (value 8 octal)
  | zero : Denotes ['0'] 0
  | decimal {decimal : List Char} (nonempty : decimal ≠ []) (first : decimal.head? ≠ some '0')
      (digits : ∀ d ∈ decimal, isDecimal d = true) : Denotes decimal (value 10 decimal)

lemma number?_hexadecimal (mark : c = 'x' ∨ c = 'X') :
    number? ('0' :: c :: cs) = if cs.all isHex then some (value 16 cs) else none := by
  rcases mark with rfl | rfl <;> rw [number?]

lemma number?_octal (unmarked : ¬ (c = 'x' ∨ c = 'X')) :
    number? ('0' :: c :: cs) = if (c :: cs).all isOctal then some (value 8 (c :: cs)) else none := by
  rw [not_or] at unmarked
  rw [number?]
  · exact unmarked.1
  · exact unmarked.2

lemma number?_decimal (first : c ≠ '0') :
    number? (c :: cs) = if (c :: cs).all isDecimal then some (value 10 (c :: cs)) else none := by
  rw [number?]
  · exact List.cons_ne_nil c cs
  all_goals
    intros
    rename_i text
    exact first (List.cons.inj text).1

lemma number?_eq_some_iff : number? cs = some n ↔ Denotes cs n := by
  constructor
  · intro h
    rcases cs with _ | ⟨a, cs⟩
    · cases h
    by_cases zero : a = '0'
    · subst zero
      rcases cs with _ | ⟨b, cs⟩
      · obtain rfl := Option.some.inj h
        exact .zero
      by_cases mark : b = 'x' ∨ b = 'X'
      · rw [number?_hexadecimal mark, Option.ite_none_right_eq_some, Option.some.injEq] at h
        obtain ⟨digits, rfl⟩ := h
        exact .hexadecimal mark (List.all_eq_true.mp digits)
      · rw [number?_octal mark, Option.ite_none_right_eq_some, Option.some.injEq] at h
        obtain ⟨digits, rfl⟩ := h
        exact .octal (List.cons_ne_nil b cs) (List.all_eq_true.mp digits)
    · rw [number?_decimal zero, Option.ite_none_right_eq_some, Option.some.injEq] at h
      obtain ⟨digits, rfl⟩ := h
      exact .decimal (List.cons_ne_nil a cs) (by simpa using zero) (List.all_eq_true.mp digits)
  · intro h
    cases h with
    | hexadecimal mark digits => rw [number?_hexadecimal mark, if_pos (List.all_eq_true.mpr digits)]
    | octal nonempty digits =>
      obtain ⟨d, ds, rfl⟩ := List.exists_cons_of_ne_nil nonempty
      have octal : isOctal d = true := digits d List.mem_cons_self
      have unmarked : ¬ (d = 'x' ∨ d = 'X') := by
        rintro (rfl | rfl) <;> exact absurd octal (by decide)
      rw [number?_octal unmarked, if_pos (List.all_eq_true.mpr digits)]
    | zero => rfl
    | decimal nonempty first digits =>
      obtain ⟨d, ds, rfl⟩ := List.exists_cons_of_ne_nil nonempty
      rw [number?_decimal (by simpa using first), if_pos (List.all_eq_true.mpr digits)]

lemma mapM_number? {labels : List (List Char)} :
    labels.mapM number? = some numbers ↔ List.Forall₂ Denotes labels numbers := by
  induction labels generalizing numbers with
  | nil => simp [eq_comm]
  | cons label labels ih =>
    simp only [List.mapM_cons, Option.bind_eq_bind, Option.bind_eq_some_iff, Option.pure_def,
      Option.some.injEq, number?_eq_some_iff, ih, List.forall₂_cons_left_iff]
    constructor
    · rintro ⟨n, hn, rest, hr, rfl⟩
      exact ⟨n, rest, hn, hr, rfl⟩
    · rintro ⟨n, rest, hn, hr, rfl⟩
      exact ⟨n, hn, rest, hr, rfl⟩

def IsAddress (name : List Char) : Prop :=
  ∃ bytes last, List.Forall₂ Denotes (labels name) (bytes ++ [last]) ∧ bytes.length ≤ 3 ∧
    (∀ b ∈ bytes, b < 256) ∧ last < Nat.pow 256 (4 - bytes.length)

lemma combine_last (room n : Nat) : (combine room [n]).isSome = true ↔ n < Nat.pow 256 room := by
  change (if n < Nat.pow 256 room then some n else none).isSome = true ↔ _
  rw [Option.isSome_ite]

lemma combine_more (room n m : Nat) (rest : List Nat) : (combine room (n :: m :: rest)).isSome = true ↔
    n < 256 ∧ (combine (room - 1) (m :: rest)).isSome = true := by
  change (if n < 256 then (combine (room - 1) (m :: rest)).map (n * Nat.pow 256 (room - 1) + ·)
    else none).isSome = true ↔ _
  split <;> simp [*]

lemma combine_isSome_iff {room : Nat} : (combine room numbers).isSome = true ↔
    ∃ bytes last, numbers = bytes ++ [last] ∧ (∀ b ∈ bytes, b < 256) ∧
      last < Nat.pow 256 (room - bytes.length) := by
  induction numbers generalizing room with
  | nil =>
    constructor
    · rintro ⟨⟩
    · rintro ⟨bytes, last, split, -⟩
      exact absurd split.symm (List.concat_ne_nil last bytes)
  | cons n rest ih =>
    cases rest with
    | nil =>
      rw [combine_last]
      constructor
      · exact fun fits => ⟨[], n, rfl, List.forall_mem_nil _, fits⟩
      · rintro ⟨bytes, last, split, -, fits⟩
        obtain ⟨rfl, rfl⟩ : bytes = [] ∧ n = last := by
          cases bytes <;> simp_all
        exact fits
    | cons m rest =>
      have behind (bytes : List Nat) : room - 1 - bytes.length = room - (bytes.length + 1) := by omega
      rw [combine_more, ih]
      constructor
      · rintro ⟨byte, bytes, last, split, small, fits⟩
        exact ⟨n :: bytes, last, by rw [split, List.cons_append],
          List.forall_mem_cons.mpr ⟨byte, small⟩, behind bytes ▸ fits⟩
      · rintro ⟨_ | ⟨b, bytes⟩, last, split, small, fits⟩
        · cases split
        obtain ⟨rfl, behindFirst⟩ := List.cons.inj split
        obtain ⟨byte, small⟩ := List.forall_mem_cons.mp small
        exact ⟨byte, bytes, last, behindFirst, small, (behind bytes).symm ▸ fits⟩

lemma parse?_isSome_iff : (parse? name).isSome = true ↔ IsAddress name := by
  rw [parse?]
  constructor
  · intro h
    cases hn : (labels name).mapM number? with
    | none => simp [hn] at h
    | some numbers =>
      simp only [hn, Option.bind_eq_bind, Option.bind_some] at h
      split at h
      · cases h
      rename_i few
      obtain ⟨bytes, last, rfl, small, fits⟩ := combine_isSome_iff.mp h
      refine ⟨bytes, last, mapM_number?.mp hn, ?_, small, fits⟩
      rw [List.length_append, List.length_singleton] at few
      omega
  · rintro ⟨bytes, last, denote, few, small, fits⟩
    have few : ¬ 4 < (bytes ++ [last]).length := by
      rw [List.length_append, List.length_singleton]
      omega
    simp only [mapM_number?.mpr denote, Option.bind_eq_bind, Option.bind_some, if_neg few]
    exact combine_isSome_iff.mpr ⟨bytes, last, rfl, small, fits⟩

lemma hexValue?_toLower (hc : c.toNat < 128) : hexValue? c.toLower = hexValue? c :=
  ascii_forall (P := fun c => hexValue? c.toLower = hexValue? c) (by decide) hc

lemma value_map_toLower (base : Nat) (ascii : ∀ c ∈ cs, c.toNat < 128) :
    value base (cs.map Char.toLower) = value base cs := by
  rw [value, List.foldl_map, value]
  apply List.foldl_ext
  intro n c hc
  rw [hexValue?_toLower (ascii c hc)]

lemma all_map_toLower {p : Char → Bool} (same : ∀ n < 128, p (Char.ofNat n).toLower = p (Char.ofNat n))
    (ascii : ∀ c ∈ cs, c.toNat < 128) : (cs.map Char.toLower).all p = cs.all p := by
  rw [Bool.eq_iff_iff, List.all_eq_true, List.all_eq_true, List.forall_mem_map]
  refine forall₂_congr fun d hd => ?_
  rw [ascii_forall (P := fun d => p d.toLower = p d) same (ascii d hd)]

lemma number?_map_toLower (ascii : ∀ c ∈ cs, c.toNat < 128) :
    number? (cs.map Char.toLower) = number? cs := by
  rcases cs with _ | ⟨a, as⟩
  · rfl
  have ha := ascii a List.mem_cons_self
  have zeros : a.toLower = '0' ↔ a = '0' :=
    ascii_forall (P := fun c => c.toLower = '0' ↔ c = '0') (by decide) ha
  by_cases zero : a = '0'
  · subst zero
    rcases as with _ | ⟨b, bs⟩
    · rfl
    have behind : ∀ c ∈ b :: bs, c.toNat < 128 := fun c hc => ascii c (List.mem_cons_of_mem _ hc)
    have digits : ∀ c ∈ bs, c.toNat < 128 := fun c hc => behind c (List.mem_cons_of_mem b hc)
    have marks : (b.toLower = 'x' ∨ b.toLower = 'X') ↔ (b = 'x' ∨ b = 'X') :=
      ascii_forall (P := fun c => (c.toLower = 'x' ∨ c.toLower = 'X') ↔ (c = 'x' ∨ c = 'X'))
        (by decide) (behind b List.mem_cons_self)
    change number? ('0' :: b.toLower :: bs.map Char.toLower) = _
    by_cases mark : b = 'x' ∨ b = 'X'
    · rw [number?_hexadecimal mark, number?_hexadecimal (marks.mpr mark), value_map_toLower 16 digits,
        all_map_toLower (by decide) digits]
    · rw [number?_octal mark, number?_octal (marks.not.mpr mark), ← List.map_cons,
        value_map_toLower 8 behind, all_map_toLower (by decide) behind]
  · rw [number?_decimal zero, List.map_cons, number?_decimal (zeros.not.mpr zero), ← List.map_cons,
      value_map_toLower 10 ascii, all_map_toLower (by decide) ascii]

lemma isNumber_map_toLower (ascii : ∀ c ∈ label, c.toNat < 128) :
    IsNumber (label.map Char.toLower) ↔ IsNumber label := by
  rw [isNumber_iff, isNumber_iff, number?_map_toLower ascii, all_map_toLower (by decide) ascii, ne_eq,
    List.map_eq_nil_iff]

lemma splitOn_map_toLower (ascii : ∀ c ∈ cs, c.toNat < 128) :
    splitOn '.' (cs.map Char.toLower) = (splitOn '.' cs).map (List.map Char.toLower) :=
  splitOn_map fun c hc => ascii_forall (P := fun c => c.toLower = '.' ↔ c = '.') (by decide) (ascii c hc)

lemma endsInNumber_map_toLower (ascii : ∀ c ∈ name, c.toNat < 128) :
    EndsInNumber (name.map Char.toLower) ↔ EndsInNumber name := by
  simp only [EndsInNumber, splitOn_map_toLower ascii, List.getLast?_map, Option.map_eq_some_iff]
  constructor
  · rintro ⟨_, ⟨label, last, rfl⟩, number⟩
    have low : ∀ c ∈ label, c.toNat < 128 := fun c hc =>
      ascii c (mem_of_mem_splitOn (List.mem_of_getLast? last) hc)
    exact ⟨label, last, (isNumber_map_toLower low).mp number⟩
  · rintro ⟨label, last, number⟩
    have low : ∀ c ∈ label, c.toNat < 128 := fun c hc =>
      ascii c (mem_of_mem_splitOn (List.mem_of_getLast? last) hc)
    exact ⟨_, ⟨label, last, rfl⟩, (isNumber_map_toLower low).mpr number⟩

lemma labels_map_toLower (ascii : ∀ c ∈ name, c.toNat < 128) :
    labels (name.map Char.toLower) = (labels name).map (List.map Char.toLower) := by
  rw [labels, labels, splitOn_map_toLower ascii, ← List.map_reverse]
  rcases (splitOn '.' name).reverse with _ | ⟨_ | ⟨c, cs⟩, _ | ⟨label, rest⟩⟩ <;> simp

lemma mem_splitOn_of_mem_labels (h : label ∈ labels name) : label ∈ splitOn '.' name := by
  rw [labels] at h
  split at h
  · rename_i last rest split
    have mem : label ∈ (splitOn '.' name).reverse := by
      rw [split]
      exact List.mem_cons_of_mem [] (List.mem_reverse.mp h)
    exact List.mem_reverse.mp mem
  · rwa [List.reverse_reverse] at h

lemma mapM_number?_map_toLower {labels : List (List Char)}
    (ascii : ∀ label ∈ labels, ∀ c ∈ label, c.toNat < 128) :
    (labels.map (List.map Char.toLower)).mapM number? = labels.mapM number? := by
  induction labels with
  | nil => rfl
  | cons label labels ih =>
    obtain ⟨first, further⟩ := List.forall_mem_cons.mp ascii
    rw [List.map_cons, List.mapM_cons, List.mapM_cons, number?_map_toLower first, ih further]

lemma parse?_map_toLower (ascii : ∀ c ∈ name, c.toNat < 128) :
    parse? (name.map Char.toLower) = parse? name := by
  have low : ∀ label ∈ labels name, ∀ c ∈ label, c.toNat < 128 := fun label hl c hc =>
    ascii c (mem_of_mem_splitOn (mem_splitOn_of_mem_labels hl) hc)
  rw [parse?, parse?, labels_map_toLower ascii, mapM_number?_map_toLower low]

end Url.Ipv4

end RegistryLogin
