import RegistryLogin.Text.Category
import Mathlib.Data.List.TakeWhile
import Mathlib.Tactic.Lemma

namespace RegistryLogin.Text

variable {separator : Char} {cs us ws : List Char}

lemma not_mem_of_forall {p : Char → Bool} {d : Char} (h : ∀ c ∈ us, p c = true) (hd : p d = false) :
    d ∉ us := by
  intro hm
  rw [h d hm] at hd
  cases hd

lemma cutAt?_eq_none (h : separator ∉ cs) : cutAt? separator cs = none := by
  induction cs with
  | nil => rfl
  | cons c cs ih =>
    simp only [List.mem_cons, not_or] at h
    simp [cutAt?, Ne.symm h.1, ih h.2]

lemma not_mem_of_cutAt? (h : cutAt? separator cs = none) : separator ∉ cs := by
  intro hm
  obtain ⟨us, ws, rfl, hu⟩ := List.eq_append_cons_of_mem hm
  rw [cutAt?_append hu] at h
  cases h

lemma splitOn_eq_singleton (h : separator ∉ cs) : splitOn separator cs = [cs] := by
  induction cs with
  | nil => rfl
  | cons c cs ih =>
    simp only [List.mem_cons, not_or] at h
    simp [splitOn, Ne.symm h.1, ih h.2]

lemma splitOn_append (h : separator ∉ us) :
    splitOn separator (us ++ separator :: ws) = us :: splitOn separator ws := by
  induction us with
  | nil => simp [splitOn]
  | cons c us ih =>
    simp only [List.mem_cons, not_or] at h
    simp [splitOn, Ne.symm h.1, ih h.2]

lemma splitOn_ne_nil (separator : Char) (cs : List Char) : splitOn separator cs ≠ [] := by
  cases cs with
  | nil => simp [splitOn]
  | cons c cs =>
    simp only [splitOn]
    split
    · simp
    · split <;> simp

theorem splitOn_induction {motive : List Char → Prop} (separator : Char)
    (last : ∀ us, separator ∉ us → motive us)
    (piece : ∀ us ws, separator ∉ us → motive ws → motive (us ++ separator :: ws))
    (cs : List Char) : motive cs := by
  induction hn : cs.length using Nat.strongRecOn generalizing cs with
  | ind n ih =>
    subst hn
    cases h : cutAt? separator cs with
    | none => exact last cs (not_mem_of_cutAt? h)
    | some parts =>
      obtain ⟨us, ws⟩ := parts
      obtain ⟨rfl, hu⟩ := append_of_cutAt? h
      refine piece us ws hu (ih ws.length ?_ ws rfl)
      simp only [List.length_append, List.length_cons]
      omega

lemma mem_of_mem_splitOn {c : Char} (h : us ∈ splitOn separator cs) (hc : c ∈ us) : c ∈ cs := by
  induction cs using splitOn_induction separator with
  | last ws hw =>
    rw [splitOn_eq_singleton hw, List.mem_singleton] at h
    rwa [← h]
  | piece ws rest hw ih =>
    rw [splitOn_append hw] at h
    rcases List.mem_cons.mp h with rfl | h
    · exact List.mem_append_left _ hc
    · exact List.mem_append_right _ (List.mem_cons_of_mem separator (ih h))

structure Strips (cs inner : List Char) : Prop where
  split : ∃ before after, cs = before ++ inner ++ after ∧ (∀ c ∈ before, isBlank c = true) ∧
    ∀ c ∈ after, isBlank c = true
  first : ∀ c ∈ inner.head?, isBlank c = false
  last : ∀ c ∈ inner.getLast?, isBlank c = false

lemma not_of_dropWhile {p : Char → Bool} {c : Char} (h : c ∈ (cs.dropWhile p).head?) : p c = false := by
  have stops := List.head?_dropWhile_not p cs
  rw [Option.mem_def.mp h] at stops
  exact stops

theorem strips_trim (cs : List Char) : Strips cs (trim cs) := by
  have front : cs = cs.takeWhile isBlank ++ cs.dropWhile isBlank := List.takeWhile_append_dropWhile.symm
  have back : cs.dropWhile isBlank =
      trim cs ++ ((cs.dropWhile isBlank).reverse.takeWhile isBlank).reverse := by
    rw [trim, ← List.reverse_append, List.takeWhile_append_dropWhile, List.reverse_reverse]
  refine ⟨⟨cs.takeWhile isBlank, ((cs.dropWhile isBlank).reverse.takeWhile isBlank).reverse, ?_, ?_, ?_⟩,
    ?_, ?_⟩
  · rw [List.append_assoc, ← back, ← front]
  · intro c hc
    exact List.mem_takeWhile_imp hc
  · intro c hc
    exact List.mem_takeWhile_imp (List.mem_reverse.mp hc)
  · intro c hc
    have first : c ∈ (cs.dropWhile isBlank).head? := by
      rw [back, List.head?_append, Option.mem_def.mp hc]
      rfl
    exact not_of_dropWhile first
  · intro c hc
    rw [trim, List.getLast?_reverse] at hc
    exact not_of_dropWhile hc

lemma trim_eq_nil_iff : trim cs = [] ↔ ∀ c ∈ cs, isBlank c = true := by
  constructor
  · intro h
    obtain ⟨before, after, split, hb, ha⟩ := (strips_trim cs).split
    rw [h, List.append_nil] at split
    intro c hc
    rw [split] at hc
    exact (List.mem_append.mp hc).elim (hb c) (ha c)
  · intro h
    rw [trim, List.dropWhile_eq_nil_iff.mpr h]
    rfl

lemma dropWhile_eq_self {p : Char → Bool} (h : ∀ c ∈ cs.head?, p c = false) :
    cs.dropWhile p = cs := by
  cases cs with
  | nil => rfl
  | cons c cs => exact List.dropWhile_cons_of_neg (by rw [h c rfl]; exact Bool.false_ne_true)

theorem Strips.trim_eq {inner : List Char} (h : Strips cs inner) : trim cs = inner := by
  obtain ⟨before, after, split, hb, ha⟩ := h.split
  rcases inner with _ | ⟨c, inner⟩
  · rw [List.append_nil] at split
    rw [trim_eq_nil_iff, split]
    exact List.forall_mem_append.mpr ⟨hb, ha⟩
  · have front : cs.dropWhile isBlank = c :: inner ++ after := by
      rw [split, List.append_assoc, List.dropWhile_append_of_pos hb]
      exact dropWhile_eq_self h.first
    have back : ∀ d ∈ (c :: inner).reverse.head?, isBlank d = false := by
      rw [List.head?_reverse]
      exact h.last
    have blank : ∀ d ∈ after.reverse, isBlank d = true := fun d hd => ha d (List.mem_reverse.mp hd)
    rw [trim, front, List.reverse_append, List.dropWhile_append_of_pos blank, dropWhile_eq_self back,
      List.reverse_reverse]

end RegistryLogin.Text
