import Mathlib.Computability.Language
import RegistryLogin.Proofs.Text.Splitting
import RegistryLogin.Reference.Grammar

/-! The parts of a reference as regular languages. -/

namespace RegistryLogin.Reference

open Text
open scoped Computability

namespace Pattern

def char (p : Char → Bool) : Language Char := {cs | ∃ c, p c = true ∧ cs = [c]}

def literal (cs : List Char) : Language Char := {cs}

def optional (l : Language Char) : Language Char := 1 + l

def many (l : Language Char) : Language Char := l * l∗

def separated (mark l : Language Char) : Language Char := l * (mark * l)∗

def component : Language Char :=
  separated (char (['.', '_'].contains ·) + literal ['_', '_'] + (char (· == '-'))∗)
    (many (char isLowerAlphanum))

def hostLabel : Language Char :=
  char Char.isAlphanum +
    char Char.isAlphanum * (char fun c => c.isAlphanum || c == '-')∗ * char Char.isAlphanum

def host : Language Char :=
  separated (char (· == '.')) hostLabel * optional (literal [':'] * many (char Char.isDigit))

def name : Language Char :=
  optional (host * literal ['/']) * separated (char (· == '/')) component

def tag : Language Char :=
  char isWord * optional (char fun c => isWord c || c == '.' || c == '-') ^ 127

def algorithm : Language Char :=
  separated (char (['-', '_', '+', '.'].contains ·)) (char Char.isAlpha * (char Char.isAlphanum)∗)

def hex : Language Char :=
  char (fun c => (hexValue? c).isSome) ^ 32 * (char fun c => (hexValue? c).isSome)∗

variable {p : Char → Bool} {l : Language Char} {cs us ws : List Char}

lemma mem_char : cs ∈ char p ↔ ∃ c, p c = true ∧ cs = [c] := Iff.rfl

lemma mem_literal : cs ∈ literal us ↔ cs = us := Iff.rfl

lemma mem_optional : cs ∈ optional l ↔ cs = [] ∨ cs ∈ l := Iff.rfl

lemma cons_mem_char_mul {c : Char} : c :: cs ∈ char p * l ↔ p c = true ∧ cs ∈ l := by
  rw [Language.mem_mul]
  constructor
  · rintro ⟨_, ⟨d, hd, rfl⟩, ws, hw, h⟩
    obtain ⟨rfl, rfl⟩ := List.cons.inj h
    exact ⟨hd, hw⟩
  · rintro ⟨hc, hcs⟩
    exact ⟨[c], ⟨c, hc, rfl⟩, cs, hcs, rfl⟩

lemma nil_notMem_char_mul : [] ∉ char p * l := by
  intro h
  obtain ⟨_, ⟨c, -, rfl⟩, ws, -, h⟩ := Language.mem_mul.mp h
  cases h

lemma mem_mul_char : cs ∈ l * char p ↔ ∃ us c, us ∈ l ∧ p c = true ∧ us ++ [c] = cs := by
  rw [Language.mem_mul]
  constructor
  · rintro ⟨us, hu, _, ⟨c, hc, rfl⟩, rfl⟩
    exact ⟨us, c, hu, hc, rfl⟩
  · rintro ⟨us, c, hu, hc, rfl⟩
    exact ⟨us, hu, [c], ⟨c, hc, rfl⟩, rfl⟩

lemma mem_char_kstar : cs ∈ (char p)∗ ↔ ∀ c ∈ cs, p c = true := by
  constructor
  · rw [Language.mem_kstar]
    rintro ⟨words, rfl, hw⟩ c hc
    obtain ⟨word, hm, hc⟩ := List.mem_flatten.mp hc
    obtain ⟨d, hd, rfl⟩ := hw word hm
    exact List.mem_singleton.mp hc ▸ hd
  · intro h
    have hs : cs = (cs.map fun c => [c]).flatten := by
      rw [← List.flatMap_def, List.flatMap_singleton']
    refine Language.mem_kstar.mpr ⟨_, hs, ?_⟩
    rintro _ hm
    obtain ⟨c, hc, rfl⟩ := List.mem_map.mp hm
    exact ⟨c, h c hc, rfl⟩

lemma mem_many_char : cs ∈ many (char p) ↔ cs ≠ [] ∧ ∀ c ∈ cs, p c = true := by
  cases cs with
  | nil => simp [many, nil_notMem_char_mul]
  | cons c cs => simp [many, cons_mem_char_mul, mem_char_kstar]

lemma mem_char_pow (n : ℕ) : cs ∈ char p ^ n ↔ cs.length = n ∧ ∀ c ∈ cs, p c = true := by
  induction n generalizing cs with
  | zero => cases cs <;> simp [Language.mem_one]
  | succ n ih =>
    rw [pow_succ']
    cases cs with
    | nil => simp [nil_notMem_char_mul]
    | cons c cs =>
      rw [cons_mem_char_mul, ih]
      simp only [List.length_cons, Nat.add_right_cancel_iff, List.forall_mem_cons]
      tauto

lemma optional_mul (l m : Language Char) : optional l * m = m + l * m := by
  rw [optional, add_mul, one_mul]

lemma mem_optional_pow (n : ℕ) :
    cs ∈ optional (char p) ^ n ↔ cs.length ≤ n ∧ ∀ c ∈ cs, p c = true := by
  induction n generalizing cs with
  | zero => cases cs <;> simp [Language.mem_one]
  | succ n ih =>
    rw [pow_succ', optional_mul, Language.mem_add]
    cases cs with
    | nil => simp [ih]
    | cons c cs =>
      rw [cons_mem_char_mul, ih, ih]
      simp only [List.length_cons, List.forall_mem_cons]
      constructor
      · rintro (⟨hn, h⟩ | ⟨hc, hn, h⟩)
        · exact ⟨by omega, h⟩
        · exact ⟨by omega, hc, h⟩
      · rintro ⟨hn, hc, h⟩
        exact .inr ⟨hc, by omega, h⟩

lemma mem_separated_of_mem {mark : Language Char} (h : cs ∈ l) : cs ∈ separated mark l := by
  have hs := Language.append_mem_mul h (Language.nil_mem_kstar (mark * l))
  rwa [List.append_nil] at hs

lemma append_mem_separated {mark : Language Char} {ms : List Char} (hu : us ∈ separated mark l)
    (hm : ms ∈ mark) (hw : ws ∈ l) : us ++ (ms ++ ws) ∈ separated mark l := by
  have h : us ++ (ms ++ ws) ∈ separated mark l * (mark * l) :=
    Language.append_mem_mul hu (Language.append_mem_mul hm hw)
  have le : separated mark l * (mark * l) ≤ separated mark l := by
    rw [separated, mul_assoc]
    exact mul_le_mul_right (kstar_mul_le_kstar) _
  exact le h

lemma cons_mem_separated {c : Char} (hu : us ∈ l) (hc : p c = true)
    (hw : ws ∈ separated (char p) l) : us ++ c :: ws ∈ separated (char p) l := by
  obtain ⟨first, hf, _, hr, rfl⟩ := Language.mem_mul.mp hw
  obtain ⟨words, rfl, hwords⟩ := Language.mem_kstar.mp hr
  refine Language.append_mem_mul hu (Language.mem_kstar.mpr ⟨(c :: first) :: words, by simp, ?_⟩)
  rintro _ (_ | ⟨_, hm⟩)
  · exact cons_mem_char_mul.mpr ⟨hc, hf⟩
  · exact hwords _ hm

lemma exists_last {mark : Language Char} (h : cs ∈ separated mark l) :
    cs ∈ l ∨ ∃ us ∈ separated mark l, ∃ ms ∈ mark, ∃ ws ∈ l, us ++ (ms ++ ws) = cs := by
  rw [separated, ← Language.one_add_kstar_mul_self_eq_kstar, mul_add, mul_one, ← mul_assoc,
    Language.mem_add] at h
  refine h.imp_right fun h => ?_
  obtain ⟨us, hu, _, hr, rfl⟩ := Language.mem_mul.mp h
  obtain ⟨ms, hm, ws, hw, rfl⟩ := Language.mem_mul.mp hr
  exact ⟨us, hu, ms, hm, ws, hw, rfl⟩

lemma getLast?_separated {mark : Language Char} {P : Char → Prop}
    (hl : ∀ us ∈ l, ∃ c, us.getLast? = some c ∧ P c) (h : cs ∈ separated mark l) :
    ∃ c, cs.getLast? = some c ∧ P c := by
  rcases exists_last h with h | ⟨us, -, ms, -, ws, hw, rfl⟩
  · exact hl cs h
  · obtain ⟨c, hc, last⟩ := hl ws hw
    exact ⟨c, by simp [List.getLast?_append, hc], last⟩

lemma forall_mem_separated {mark : Language Char} {P : Char → Prop}
    (hm : ∀ us ∈ mark, ∀ c ∈ us, P c) (hl : ∀ us ∈ l, ∀ c ∈ us, P c) (h : cs ∈ separated mark l) :
    ∀ c ∈ cs, P c := by
  obtain ⟨first, hf, _, hr, rfl⟩ := Language.mem_mul.mp h
  obtain ⟨words, rfl, hw⟩ := Language.mem_kstar.mp hr
  intro c hc
  rcases List.mem_append.mp hc with hc | hc
  · exact hl first hf c hc
  · obtain ⟨word, hword, hc⟩ := List.mem_flatten.mp hc
    obtain ⟨us, hu, ws, hws, rfl⟩ := Language.mem_mul.mp (hw word hword)
    rcases List.mem_append.mp hc with hc | hc
    · exact hm us hu c hc
    · exact hl ws hws c hc

section

variable {mark : Char} {marks : Char → Bool} {f : Char → Char}

lemma map_unmarked (hf : ∀ c, f c = if marks c then mark else c) (hm : marks mark = true)
    (hu : ∀ c ∈ us, marks c = false) : us.map f = us ∧ mark ∉ us := by
  refine ⟨List.map_congr_left (fun c hc => by simp [hf, hu c hc]) |>.trans (List.map_id us), ?_⟩
  intro h
  rw [hu mark h] at hm
  cases hm

lemma splitOn_unmarked (hf : ∀ c, f c = if marks c then mark else c) (hm : marks mark = true)
    (hu : ∀ c ∈ us, marks c = false) : splitOn mark (us.map f) = [us] := by
  obtain ⟨same, plain⟩ := map_unmarked hf hm hu
  rw [same, splitOn_eq_singleton plain]

lemma splitOn_marked (hf : ∀ c, f c = if marks c then mark else c) (hm : marks mark = true)
    (hu : ∀ c ∈ us, marks c = false) {c : Char} (hc : marks c = true) :
    splitOn mark ((us ++ c :: ws).map f) = us :: splitOn mark (ws.map f) := by
  obtain ⟨same, plain⟩ := map_unmarked hf hm hu
  rw [List.map_append, List.map_cons, same, hf c, if_pos hc, splitOn_append plain]

lemma pieces_of_mem_separated (hf : ∀ c, f c = if marks c then mark else c) (hm : marks mark = true)
    (hl : ∀ us ∈ l, ∀ c ∈ us, marks c = false) (h : cs ∈ separated (char marks) l) :
    ∀ piece ∈ splitOn mark (cs.map f), piece ∈ l := by
  obtain ⟨first, hfirst, _, hrest, rfl⟩ := Language.mem_mul.mp h
  obtain ⟨words, rfl, hw⟩ := Language.mem_kstar.mp hrest
  clear h hrest
  induction words generalizing first with
  | nil =>
    rw [List.flatten_nil, List.append_nil, splitOn_unmarked hf hm (hl first hfirst)]
    simpa using hfirst
  | cons word words ih =>
    obtain ⟨_, ⟨c, hc, rfl⟩, next, hnext, rfl⟩ := Language.mem_mul.mp (hw word List.mem_cons_self)
    rw [List.flatten_cons, List.append_assoc, List.singleton_append,
      splitOn_marked hf hm (hl first hfirst) hc]
    rintro piece (_ | ⟨_, hp⟩)
    · exact hfirst
    · exact ih next hnext (fun w h => hw w (List.mem_cons_of_mem _ h)) piece hp

lemma append_mem_separated_of_pieces (hf : ∀ c, f c = if marks c then mark else c)
    (hm : marks mark = true) (hu : ∀ c ∈ us, marks c = false)
    (hp : ∀ piece ∈ splitOn mark ((us ++ cs).map f), piece ∈ l) :
    us ++ cs ∈ separated (char marks) l := by
  induction cs generalizing us with
  | nil =>
    rw [List.append_nil, splitOn_unmarked hf hm hu] at hp
    rw [List.append_nil]
    exact mem_separated_of_mem (hp us List.mem_cons_self)
  | cons c cs ih =>
    cases hc : marks c with
    | true =>
      rw [splitOn_marked hf hm hu hc] at hp
      exact cons_mem_separated (hp us List.mem_cons_self) hc
        (ih (List.forall_mem_nil _) fun piece h => hp piece (List.mem_cons_of_mem _ h))
    | false =>
      rw [← List.singleton_append, ← List.append_assoc] at hp ⊢
      refine ih (fun d hd => ?_) hp
      rcases List.mem_append.mp hd with hd | hd
      · exact hu d hd
      · exact List.mem_singleton.mp hd ▸ hc

theorem mem_separated (hf : ∀ c, f c = if marks c then mark else c) (hm : marks mark = true)
    (hl : ∀ us ∈ l, ∀ c ∈ us, marks c = false) :
    cs ∈ separated (char marks) l ↔ ∀ piece ∈ splitOn mark (cs.map f), piece ∈ l :=
  ⟨pieces_of_mem_separated hf hm hl, append_mem_separated_of_pieces hf hm (List.forall_mem_nil _)⟩

end

lemma mem_separated_char {mark : Char} (hl : ∀ us ∈ l, mark ∉ us) :
    cs ∈ separated (char (· == mark)) l ↔ ∀ piece ∈ splitOn mark cs, piece ∈ l := by
  have unmarked : ∀ us ∈ l, ∀ c ∈ us, (c == mark) = false := by
    intro us hu c hc
    rw [beq_eq_false_iff_ne]
    exact fun he => hl us hu (he ▸ hc)
  have same : ∀ c, id c = if c == mark then mark else c := by
    intro c
    by_cases hc : c = mark <;> simp [hc]
  rw [mem_separated same (beq_self_eq_true mark) unmarked, List.map_id]

end Pattern

section

open Pattern

variable {cs us ms done separator : List Char}

lemma isSeparator_reverse (ms : List Char) : isSeparator ms.reverse = isSeparator ms := by
  rw [Bool.eq_iff_iff]
  simp [isSeparator, List.reverse_eq_iff]

lemma mem_componentMark :
    ms ∈ char (['.', '_'].contains ·) + literal ['_', '_'] + (char (· == '-'))∗ ↔
      ms = [] ∨ isSeparator ms = true := by
  simp only [Language.mem_add, mem_char, mem_literal, mem_char_kstar, isSeparator]
  cases ms with
  | nil => simp
  | cons c ms => simp

lemma not_lower_of_mark (h : isSeparator ms = true) : ∀ c ∈ ms, isLowerAlphanum c = false := by
  simp only [isSeparator, Bool.or_eq_true, Bool.and_eq_true, beq_iff_eq, List.all_eq_true] at h
  intro c hc
  rcases h with ((rfl | rfl) | rfl) | ⟨-, h⟩
  · obtain rfl : c = '.' := by simpa using hc
    rfl
  · obtain rfl : c = '_' := by simpa using hc
    rfl
  · obtain rfl : c = '_' := by simpa using hc
    rfl
  · rw [h c hc]
    rfl

lemma append_mem_component (hd : done ∈ component)
    (h : isComponentTail separator cs = true) :
    done ++ (separator.reverse ++ cs) ∈ component := by
  induction cs generalizing done separator with
  | nil =>
    simp only [isComponentTail, List.isEmpty_iff] at h
    simpa [h] using hd
  | cons c cs ih =>
    rw [isComponentTail] at h
    split at h
    · rename_i hc
      rw [Bool.and_eq_true, Bool.or_eq_true, List.isEmpty_iff] at h
      have next : done ++ (separator.reverse ++ [c]) ∈ component := by
        refine append_mem_separated hd (mem_componentMark.mpr ?_)
          (mem_many_char.mpr ⟨List.cons_ne_nil c [], by simpa using hc⟩)
        rw [List.reverse_eq_nil_iff, isSeparator_reverse]
        exact h.1
      simpa using ih next h.2
    · simpa using ih hd h

lemma isComponentTail_marks (hm : ∀ c ∈ ms, isLowerAlphanum c = false) :
    isComponentTail separator (ms ++ cs) = isComponentTail (ms.reverse ++ separator) cs := by
  induction ms generalizing separator with
  | nil => rfl
  | cons c ms ih =>
    have hc := hm c List.mem_cons_self
    rw [List.cons_append, isComponentTail, if_neg (by simp [hc]),
      ih fun d hd => hm d (List.mem_cons_of_mem c hd)]
    simp

lemma isComponentTail_run (hu : ∀ c ∈ us, isLowerAlphanum c = true) :
    isComponentTail [] (us ++ cs) = isComponentTail [] cs := by
  induction us with
  | nil => rfl
  | cons c us ih =>
    rw [List.cons_append, isComponentTail, if_pos (hu c List.mem_cons_self),
      ih fun d hd => hu d (List.mem_cons_of_mem c hd)]
    simp

lemma isComponentTail_words {words : List (List Char)}
    (h : ∀ word ∈ words, word ∈ (char (['.', '_'].contains ·) + literal ['_', '_'] +
      (char (· == '-'))∗) * many (char isLowerAlphanum)) :
    isComponentTail [] words.flatten = true := by
  induction words with
  | nil => rfl
  | cons word words ih =>
    have rest := ih fun w hw => h w (List.mem_cons_of_mem word hw)
    obtain ⟨ms, hm, us, hu, rfl⟩ := Language.mem_mul.mp (h word List.mem_cons_self)
    obtain ⟨hne, hu⟩ := mem_many_char.mp hu
    have marks : ms.reverse.isEmpty = true ∨ isSeparator ms.reverse = true := by
      rw [isSeparator_reverse, List.isEmpty_iff, List.reverse_eq_nil_iff]
      exact mem_componentMark.mp hm
    have unlike : ∀ c ∈ ms, isLowerAlphanum c = false := by
      rcases mem_componentMark.mp hm with rfl | hm
      · simp
      · exact not_lower_of_mark hm
    cases us with
    | nil => contradiction
    | cons c us =>
      rw [List.flatten_cons, List.append_assoc, isComponentTail_marks unlike, List.append_nil,
        List.cons_append, isComponentTail, if_pos (hu c List.mem_cons_self),
        isComponentTail_run fun d hd => hu d (List.mem_cons_of_mem c hd), rest, Bool.and_true,
        Bool.or_eq_true]
      exact marks

theorem isComponent_iff : isComponent cs = true ↔ cs ∈ component := by
  constructor
  · intro h
    cases cs with
    | nil => cases h
    | cons c cs =>
      rw [isComponent, Bool.and_eq_true] at h
      have first : [c] ∈ component :=
        mem_separated_of_mem (mem_many_char.mpr ⟨List.cons_ne_nil c [], by simpa using h.1⟩)
      exact append_mem_component first h.2
  · intro h
    obtain ⟨first, hf, _, hr, rfl⟩ := Language.mem_mul.mp h
    obtain ⟨words, rfl, hw⟩ := Language.mem_kstar.mp hr
    obtain ⟨hne, hf⟩ := mem_many_char.mp hf
    cases first with
    | nil => contradiction
    | cons c first =>
      rw [List.cons_append, isComponent, hf c List.mem_cons_self,
        isComponentTail_run fun d hd => hf d (List.mem_cons_of_mem c hd), isComponentTail_words hw]
      rfl

lemma isHostLabel_iff : isHostLabel cs = true ↔ cs ∈ hostLabel := by
  rw [isHostLabel, hostLabel, mul_assoc, Language.mem_add, mem_char]
  cases cs with
  | nil => simp [nil_notMem_char_mul]
  | cons c cs =>
    rw [cons_mem_char_mul, mem_mul_char]
    rcases List.eq_nil_or_concat cs with rfl | ⟨us, d, rfl⟩
    · simpa using Or.inl
    · have last : (c :: (us ++ [d])).getLast? = some d := by
        rw [← List.cons_append, List.getLast?_concat]
      simp only [List.concat_eq_append, last, mem_char_kstar]
      simp
      tauto

lemma forall_mem_hostLabel (h : us ∈ hostLabel) : ∀ c ∈ us, (c.isAlphanum || c == '-') = true := by
  rw [← isHostLabel_iff, isHostLabel, Bool.and_eq_true, Bool.and_eq_true, List.all_eq_true] at h
  exact h.1.1

lemma getLast?_labels (h : us ∈ separated (char (· == '.')) hostLabel) :
    ∃ c, us.getLast? = some c ∧ c.isAlphanum = true := by
  refine getLast?_separated (fun us hu => ?_) h
  rw [← isHostLabel_iff, isHostLabel, Bool.and_eq_true] at hu
  exact (Option.any_eq_true _ _).mp hu.2

lemma forall_mem_labels (h : us ∈ separated (char (· == '.')) hostLabel) :
    ∀ c ∈ us, (c.isAlphanum || c == '-' || c == '.') = true := by
  refine forall_mem_separated ?_ ?_ h
  · rintro _ ⟨d, hd, rfl⟩ c hc
    simp [List.mem_singleton.mp hc, hd]
  · intro us hu c hc
    rw [forall_mem_hostLabel hu c hc, Bool.true_or]

lemma all_isHostLabel_iff :
    (splitOn '.' us).all isHostLabel = true ↔ us ∈ separated (char (· == '.')) hostLabel := by
  rw [mem_separated_char fun us hu => not_mem_of_forall (forall_mem_hostLabel hu) rfl]
  simp [isHostLabel_iff]

lemma isHost_iff : isHost cs = true ↔ cs ∈ host := by
  rw [isHost]
  constructor
  · intro h
    cases hc : cutAt? ':' cs with
    | none =>
      rw [hc] at h
      have hs := Language.append_mem_mul (all_isHostLabel_iff.mp h)
        (show [] ∈ optional (literal [':'] * many (char Char.isDigit)) from .inl rfl)
      rwa [List.append_nil] at hs
    | some parts =>
      obtain ⟨us, port⟩ := parts
      obtain ⟨rfl, -⟩ := append_of_cutAt? hc
      rw [hc] at h
      simp only [Bool.and_eq_true, Bool.not_eq_true', List.isEmpty_eq_false_iff] at h
      obtain ⟨⟨labels, hne⟩, digits⟩ := h
      have hp : [':'] ++ port ∈ literal [':'] * many (char Char.isDigit) :=
        Language.append_mem_mul (mem_literal.mpr rfl)
          (mem_many_char.mpr ⟨hne, List.all_eq_true.mp digits⟩)
      exact Language.append_mem_mul (all_isHostLabel_iff.mp labels) (.inr hp)
  · intro h
    obtain ⟨us, hu, ws, hw, rfl⟩ := Language.mem_mul.mp h
    have plain : ':' ∉ us := not_mem_of_forall (forall_mem_labels hu) rfl
    rcases mem_optional.mp hw with rfl | hw
    · rw [List.append_nil, cutAt?_eq_none plain]
      exact all_isHostLabel_iff.mpr hu
    · obtain ⟨_, rfl, port, hp, rfl⟩ := Language.mem_mul.mp hw
      obtain ⟨hne, hd⟩ := mem_many_char.mp hp
      rw [List.singleton_append, cutAt?_append plain]
      simp only [Bool.and_eq_true, Bool.not_eq_true', List.isEmpty_eq_false_iff]
      exact ⟨⟨all_isHostLabel_iff.mpr hu, hne⟩, List.all_eq_true.mpr hd⟩

lemma forall_mem_host (h : us ∈ host) :
    ∀ c ∈ us, (c.isAlphanum || c == '-' || c == '.' || c == ':') = true := by
  obtain ⟨ls, hl, ws, hw, rfl⟩ := Language.mem_mul.mp h
  intro c hc
  rcases List.mem_append.mp hc with hc | hc
  · rw [forall_mem_labels hl c hc, Bool.true_or]
  · rcases mem_optional.mp hw with rfl | hw
    · cases hc
    · obtain ⟨_, rfl, port, hp, rfl⟩ := Language.mem_mul.mp hw
      rcases List.mem_append.mp hc with hc | hc
      · simp [List.mem_singleton.mp hc]
      · simp [Char.isAlphanum, (mem_many_char.mp hp).2 c hc]

lemma forall_mem_component (h : us ∈ component) :
    ∀ c ∈ us, (isLowerAlphanum c || ['.', '_', '-'].contains c) = true := by
  refine forall_mem_separated ?_ ?_ h
  · intro ms hm c hc
    rw [Language.mem_add, Language.mem_add] at hm
    rcases hm with (⟨d, hd, rfl⟩ | rfl) | hm
    · obtain rfl := List.mem_singleton.mp hc
      simp at hd ⊢
      tauto
    · obtain rfl : c = '_' := by simpa using hc
      rfl
    · obtain rfl : c = '-' := by simpa using mem_char_kstar.mp hm c hc
      rfl
  · intro us hu c hc
    rw [(mem_many_char.mp hu).2 c hc, Bool.true_or]

lemma alphanum_of_lower {c : Char} (h : isLowerAlphanum c = true) : c.isAlphanum = true := by
  rcases (Bool.or_eq_true _ _).mp h with lower | digit
  · have alpha : c.isAlpha = true := (Bool.or_eq_true _ _).mpr (.inr lower)
    exact (Bool.or_eq_true _ _).mpr (.inl alpha)
  · exact (Bool.or_eq_true _ _).mpr (.inr digit)

lemma getLast?_component (h : us ∈ component) :
    ∃ c, us.getLast? = some c ∧ isLowerAlphanum c = true := by
  refine getLast?_separated (fun us hu => ?_) h
  obtain ⟨nonempty, chars⟩ := mem_many_char.mp hu
  exact ⟨_, List.getLast?_eq_some_getLast nonempty, chars _ (List.getLast_mem nonempty)⟩

lemma all_isComponent_iff :
    (splitOn '/' us).all isComponent = true ↔ us ∈ separated (char (· == '/')) component := by
  rw [mem_separated_char fun us hu => not_mem_of_forall (forall_mem_component hu) rfl]
  simp [isComponent_iff]

lemma mem_host_mul {l : Language Char} :
    cs ∈ host * literal ['/'] * l ↔ ∃ us ws, us ∈ host ∧ ws ∈ l ∧ us ++ '/' :: ws = cs := by
  rw [Language.mem_mul]
  constructor
  · rintro ⟨_, h, ws, hw, rfl⟩
    obtain ⟨us, hu, _, rfl, rfl⟩ := Language.mem_mul.mp h
    exact ⟨us, ws, hu, hw, by simp⟩
  · rintro ⟨us, ws, hu, hw, rfl⟩
    exact ⟨us ++ ['/'], Language.append_mem_mul hu (mem_literal.mpr rfl), ws, hw, by simp⟩

lemma isName_iff : isName cs = true ↔ cs ∈ name := by
  rw [name, optional_mul, Language.mem_add, ← all_isComponent_iff, mem_host_mul, isName]
  cases hc : cutAt? '/' cs with
  | none =>
    have plain := not_mem_of_cutAt? hc
    rw [splitOn_eq_singleton plain]
    constructor
    · intro h
      left
      simpa using h
    · rintro (h | ⟨us, ws, -, -, rfl⟩)
      · simpa using h
      · simp at plain
  | some parts =>
    obtain ⟨first, rest⟩ := parts
    obtain ⟨rfl, plain⟩ := append_of_cutAt? hc
    have more : (splitOn '/' rest).isEmpty = false := by simpa using splitOn_ne_nil '/' rest
    simp only [splitOn_append plain, more, Bool.not_false, Bool.true_and, List.all_cons,
      Bool.and_eq_true, Bool.or_eq_true, all_isComponent_iff, isHost_iff, or_and_right]
    refine or_congr Iff.rfl ⟨fun ⟨hf, hr⟩ => ⟨first, rest, hf, hr, rfl⟩, ?_⟩
    rintro ⟨us, ws, hu, hw, he⟩
    have hs : cutAt? '/' (us ++ '/' :: ws) = some (us, ws) :=
      cutAt?_append (not_mem_of_forall (forall_mem_host hu) rfl)
    rw [he, hc] at hs
    obtain ⟨rfl, rfl⟩ := Prod.mk.inj (Option.some.inj hs)
    exact ⟨hu, hw⟩

lemma isTag_iff : isTag cs = true ↔ cs ∈ Pattern.tag := by
  cases cs with
  | nil => simp [isTag, Pattern.tag, nil_notMem_char_mul]
  | cons c cs =>
    rw [isTag, Pattern.tag, cons_mem_char_mul, mem_optional_pow]
    simp [and_assoc]

lemma mem_word : us ∈ char Char.isAlpha * (char Char.isAlphanum)∗ ↔
    (us.head?.any Char.isAlpha && us.all Char.isAlphanum) = true := by
  cases us with
  | nil => simp [nil_notMem_char_mul]
  | cons c us =>
    rw [cons_mem_char_mul, mem_char_kstar]
    simp [Char.isAlphanum]
    tauto

lemma isAlgorithm_iff : isAlgorithm cs = true ↔ cs ∈ algorithm := by
  have unmarked : ∀ us ∈ char Char.isAlpha * (char Char.isAlphanum)∗, ∀ c ∈ us,
      ['-', '_', '+', '.'].contains c = false := by
    intro us hu c hc
    rw [mem_word, Bool.and_eq_true, List.all_eq_true] at hu
    refine Bool.eq_false_iff.mpr fun hm => ?_
    have plain := hu.2 c hc
    simp only [List.contains_eq_mem, decide_eq_true_eq, List.mem_cons, List.not_mem_nil, or_false] at hm
    rcases hm with rfl | rfl | rfl | rfl <;> cases plain
  have pieces : cs ∈ algorithm ↔
      ∀ piece ∈ splitOn '.' (cs.map fun c => if ['-', '_', '+', '.'].contains c then '.' else c),
        piece ∈ char Char.isAlpha * (char Char.isAlphanum)∗ :=
    mem_separated (fun c => rfl) rfl unmarked
  rw [pieces, isAlgorithm, List.all_eq_true]
  simp only [mem_word]

lemma isHexDigest_iff : isHexDigest cs = true ↔ cs ∈ hex := by
  rw [isHexDigest, hex, Language.mem_mul]
  simp only [mem_char_pow, mem_char_kstar, Bool.and_eq_true, decide_eq_true_eq, List.all_eq_true]
  constructor
  · rintro ⟨length, digits⟩
    refine ⟨cs.take 32, ⟨by simp [length], fun c hc => digits c (List.mem_of_mem_take hc)⟩,
      cs.drop 32, fun c hc => digits c (List.mem_of_mem_drop hc), List.take_append_drop 32 cs⟩
  · rintro ⟨us, ⟨length, hu⟩, ws, hw, rfl⟩
    refine ⟨by simp [length], fun c hc => ?_⟩
    rcases List.mem_append.mp hc with hc | hc
    · exact hu c hc
    · exact hw c hc

end

end RegistryLogin.Reference
