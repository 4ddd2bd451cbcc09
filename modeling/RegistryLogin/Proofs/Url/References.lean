import RegistryLogin.Url.Parser
import Mathlib.Tactic.Lemma

namespace RegistryLogin

lemma bind_ok {ε α β : Type} {x : Except ε α} {f : α → Except ε β} {b : β}
    (h : x.bind f = .ok b) : ∃ a, x = .ok a ∧ f a = .ok b := by
  cases x with
  | error e => cases h
  | ok a => exact ⟨a, rfl, h⟩

lemma ok_of_toOption {ε α : Type} {x : Except ε α} {a : α} (h : x.toOption = some a) : x = .ok a := by
  cases x with
  | error e => cases h
  | ok b => exact congrArg Except.ok (Option.some.inj h)

namespace Url

open RegistryLogin.Text

variable {scheme cs : List Char} {url base : Url}

@[simp] lemma optionalText_none (mark : Char) : optionalText mark none = [] := rfl

@[simp] lemma optionalText_some (mark : Char) (text : List Char) :
    optionalText mark (some text) = mark :: text := rfl

@[simp] lemma withEnding_scheme (url : Url) (cs : List Char) :
    (withEnding url cs).scheme = url.scheme := rfl

@[simp] lemma onSamePath_origin (base : Url) (cs : List Char) :
    (onSamePath base cs).origin = base.origin := by
  unfold onSamePath
  split <;> rfl

@[simp] lemma asDirectory_isOpaque (path : UrlPath) : path.asDirectory.isOpaque = path.isOpaque := by
  cases path with
  | opaquely text =>
    cases text with
    | nil => rfl
    | cons c cs =>
      simp only [UrlPath.asDirectory]
      split <;> rfl
  | segments list =>
    simp only [UrlPath.asDirectory]
    split <;> rfl

lemma authorityPath_isOpaque (scheme cs : List Char) : (authorityPath scheme cs).isOpaque = false := by
  unfold authorityPath
  split
  · split <;> rfl
  · split <;> rfl

lemma web_cases (h : isWeb scheme = true) :
    scheme = ['h', 't', 't', 'p'] ∨ scheme = ['h', 't', 't', 'p', 's'] := by
  simpa [isWeb] using h

lemma isSpecial_of_web (h : isWeb scheme = true) : isSpecial scheme = true := by
  rcases web_cases h with rfl | rfl <;> decide

lemma isFile_of_web (h : isWeb scheme = true) : isFile scheme = false := by
  rcases web_cases h with rfl | rfl <;> decide

lemma behindAuthority_ok {x : Except Error (Authority × List Char)}
    {path tail : Authority × List Char → List Char}
    (h : (x.bind fun found => .ok (withEnding
      ⟨scheme, some found.1, authorityPath scheme (path found), none, none⟩ (tail found))) = .ok url) :
    url.scheme = scheme ∧ ∃ cs, url.path = authorityPath scheme cs := by
  obtain ⟨found, -, hu⟩ := bind_ok h
  obtain rfl := Except.ok.inj hu
  exact ⟨rfl, path found, rfl⟩

lemma afterSlashes_ok (h : afterSlashes scheme cs = .ok url) :
    url.scheme = scheme ∧ ∃ cs, url.path = authorityPath scheme cs := by
  simp only [afterSlashes, bind] at h
  split at h
  · exact behindAuthority_ok h
  · split at h
    · cases h
    · exact behindAuthority_ok h
  · exact behindAuthority_ok h

lemma fileRooted_scheme (base : Option Url) (cs : List Char) :
    (fileRooted base cs).scheme = fileScheme := by
  simp only [fileRooted, withEnding_scheme]
  split
  · rfl
  · split
    · split <;> rfl
    · rfl

lemma fileAfterSlashes_scheme (h : fileAfterSlashes cs = .ok url) : url.scheme = fileScheme := by
  simp only [fileAfterSlashes, bind] at h
  split at h
  · obtain rfl := Except.ok.inj h
    rfl
  · obtain ⟨host, -, hu⟩ := bind_ok h
    obtain rfl := Except.ok.inj hu
    rfl

lemma file_scheme (h : file none cs = .ok url) : url.scheme = fileScheme := by
  unfold file at h
  split at h
  · split at h
    · split at h
      · split at h
        · exact fileAfterSlashes_scheme h
        · obtain rfl := Except.ok.inj h
          exact fileRooted_scheme none _
      · obtain rfl := Except.ok.inj h
        exact fileRooted_scheme none _
    · obtain rfl := Except.ok.inj h
      rfl
  · obtain rfl := Except.ok.inj h
    rfl

lemma general_scheme (h : general scheme cs = .ok url) : url.scheme = scheme := by
  unfold general at h
  split at h
  · exact (afterSlashes_ok h).1
  · obtain rfl := Except.ok.inj h
    rfl
  · obtain rfl := Except.ok.inj h
    rfl

lemma parse_path {text : String} (h : parse text = .ok url) (web : isWeb url.scheme = true) :
    ∃ cs, url.path = authorityPath url.scheme cs := by
  unfold parse read at h
  cases hs : scheme? (tidy text.toList) with
  | none => simp [hs, withoutScheme] at h
  | some own =>
    obtain ⟨scheme, rest⟩ := own
    simp only [hs, absolute, Option.filter_none] at h
    split at h
    · have hf := file_scheme h
      rw [hf] at web
      exact absurd web (by decide)
    · split at h
      · obtain ⟨rfl, path⟩ := afterSlashes_ok h
        exact path
      · rename_i hn
        rw [general_scheme h] at web
        exact absurd (isSpecial_of_web web) hn

lemma parse_isOpaque {text : String} (h : parse text = .ok url) (web : isWeb url.scheme = true) :
    url.path.isOpaque = false := by
  obtain ⟨cs, path⟩ := parse_path h web
  rw [path]
  exact authorityPath_isOpaque url.scheme cs

/-- The URL that a reference names on its own: it has another scheme than its base, or slashes that
stand for an authority. -/
def named? (scheme cs : List Char) : Option (Except Error Url) :=
  match scheme? cs with
  | some (own, rest) =>
    if own = scheme ∧ (rest.takeWhile isSlash).length < 2 then none
    else some (absolute none own rest)
  | none =>
    match cs with
    | c :: d :: more =>
      if isSlash c ∧ isSlash d then
        some (afterSlashes scheme (if c = '/' ∧ d = '/' then more else more.dropWhile isSlash))
      else none
    | _ => none

lemma relative_slashes {c d : Char} (hc : isSlash c = true) (hd : isSlash d = true)
    (base : Url) (more : List Char) :
    relative base (c :: d :: more) =
      afterSlashes base.scheme (if c = '/' ∧ d = '/' then more else more.dropWhile isSlash) := by
  unfold relative
  split
  · rename_i h
    cases h
  · rename_i h
    cases h
    cases hc
  · rename_i h
    cases h
    cases hc
  · rename_i h
    cases h
    simp only [hc, hd, if_true]
    split <;> rfl

lemma relative_origin (base : Url) (h : ∀ c d more, cs = c :: d :: more → ¬ (isSlash c ∧ isSlash d)) :
    ∃ url, relative base cs = .ok url ∧ url.origin = base.origin := by
  unfold relative
  split
  · exact ⟨_, rfl, onSamePath_origin base _⟩
  · exact ⟨_, rfl, onSamePath_origin base _⟩
  · exact ⟨_, rfl, onSamePath_origin base _⟩
  · rename_i c rest _ _
    split
    · rename_i hc
      split
      · rename_i d more
        have hd : isSlash d = false := by
          have hn := h c d more rfl
          simpa [hc] using hn
        have hne : ¬ (c = '/' ∧ d = '/') := by
          rintro ⟨-, rfl⟩
          cases hd
        rw [if_neg hne, if_neg (by simp [hd])]
        exact ⟨_, rfl, rfl⟩
      · exact ⟨_, rfl, rfl⟩
    · exact ⟨_, rfl, rfl⟩

lemma absolute_other {own : List Char} (h : own ≠ base.scheme) (cs : List Char) :
    absolute (some base) own cs = absolute none own cs := by
  have other : (some base).filter (·.scheme == own) = none := by simp [h.symm]
  simp only [absolute, other, Option.filter_none]

lemma absolute_same (web : isWeb base.scheme = true) (cs : List Char) :
    absolute (some base) base.scheme cs =
      if (cs.takeWhile isSlash).length < 2 then relative base cs
      else absolute none base.scheme cs := by
  have same : (some base).filter (·.scheme == base.scheme) = some base := by simp
  simp only [absolute, same, Option.filter_none, isFile_of_web web, isSpecial_of_web web, if_true,
    Bool.false_eq_true, if_false]

lemma withoutScheme_web (web : isWeb base.scheme = true) (segmented : base.path.isOpaque = false)
    (cs : List Char) : withoutScheme (some base) cs = relative base cs := by
  simp only [withoutScheme, segmented, isFile_of_web web, Bool.false_eq_true, if_false]
  split
  · rename_i h
    obtain ⟨rest, rfl⟩ := List.head?_eq_some_iff.mp h
    rfl
  · rfl

/-- Relative to a web URL, a reference that names none of its own keeps the origin. -/
theorem read_web (base : Url) (web : isWeb base.scheme = true) (segmented : base.path.isOpaque = false)
    (text : List Char) :
    match named? base.scheme (tidy text) with
    | some result => read (some base) text = result
    | none => ∃ url, read (some base) text = .ok url ∧ url.origin = base.origin := by
  unfold read named?
  generalize tidy text = cs
  cases hs : scheme? cs with
  | some found =>
    obtain ⟨own, rest⟩ := found
    by_cases same : own = base.scheme
    · subst same
      by_cases few : (rest.takeWhile isSlash).length < 2
      · simp only [few, and_self, if_true, absolute_same web]
        apply relative_origin
        rintro c d more rfl ⟨hc, hd⟩
        simp only [List.takeWhile_cons, hc, hd, if_true, List.length_cons] at few
        omega
      · simp only [few, and_false, if_false, absolute_same web]
    · simp only [same, false_and, if_false, absolute_other same]
  | none =>
    simp only [withoutScheme_web web segmented]
    match cs with
    | [] => exact relative_origin base (by simp)
    | [c] => exact relative_origin base (by simp)
    | c :: d :: more =>
      by_cases slashes : isSlash c ∧ isSlash d
      · simp only [slashes, and_self, if_true]
        exact relative_slashes slashes.1 slashes.2 base more
      · simp only [slashes, if_false]
        apply relative_origin
        intro c' d' more' h
        obtain ⟨rfl, rfl, rfl⟩ : c = c' ∧ d = d' ∧ more = more' := by simpa using h
        exact slashes

def isPlain (c : Char) : Bool := c.isAlphanum || c == '-' || c == '.'

lemma visible_of_plain {c : Char} (h : isPlain c = true) : 0x20 < c.toNat := by
  refine Nat.lt_of_not_le fun low => ?_
  have unplain : ∀ n < 0x21, isPlain (Char.ofNat n) = false := by decide
  rw [← Char.ofNat_toNat c, unplain _ (by omega)] at h
  cases h

lemma isPadding_of_visible {c : Char} (h : 0x20 < c.toNat) : isPadding c = false := by
  simpa [isPadding] using h

lemma isLineBreak_of_visible {c : Char} (h : 0x20 < c.toNat) : isLineBreak c = false := by
  simp only [isLineBreak, Bool.or_eq_false_iff, beq_eq_false_iff_ne]
  refine ⟨⟨?_, ?_⟩, ?_⟩ <;> (rintro rfl; revert h; decide)

lemma tidy_eq {cs : List Char} (h : ∀ c ∈ cs, 0x20 < c.toNat) : tidy cs = cs := by
  have drop : ∀ ds : List Char, (∀ c ∈ ds, 0x20 < c.toNat) → ds.dropWhile isPadding = ds := by
    intro ds hd
    cases ds with
    | nil => rfl
    | cons d ds => rw [List.dropWhile_cons_of_neg (by simp [isPadding_of_visible (hd d List.mem_cons_self)])]
  have back : ∀ c ∈ cs.reverse, 0x20 < c.toNat := fun c hc => h c (List.mem_reverse.mp hc)
  rw [tidy, drop cs h, drop cs.reverse back, List.reverse_reverse, List.filter_eq_self]
  intro c hc
  simp [isLineBreak_of_visible (h c hc)]

lemma isSchemeChar_of_plain {c : Char} (h : isPlain c = true) : isSchemeChar c = true := by
  simp only [isPlain, isSchemeChar, Bool.or_eq_true] at h ⊢
  rcases h with (h | h) | h
  · exact .inl (.inl (.inl h))
  · exact .inl (.inr h)
  · exact .inr h

lemma scheme?_plain {cs : List Char} (h : ∀ c ∈ cs, isPlain c = true) (rest : List Char) :
    scheme? (cs ++ '/' :: rest) = none := by
  have drop : (cs ++ '/' :: rest).dropWhile isSchemeChar = '/' :: rest := by
    rw [List.dropWhile_append_of_pos fun c hc => isSchemeChar_of_plain (h c hc)]
    rfl
  rw [scheme?, drop]
  cases (cs ++ '/' :: rest).head? with
  | none => rfl
  | some c => exact Option.bind_fun_none _

lemma named?_plain {cs : List Char} (nonempty : cs ≠ []) (h : ∀ c ∈ cs, isPlain c = true)
    (scheme rest : List Char) : named? scheme (cs ++ '/' :: rest) = none := by
  simp only [named?, scheme?_plain h]
  cases cs with
  | nil => contradiction
  | cons c cs =>
    have hc : isSlash c = false := by
      have hp := h c List.mem_cons_self
      rw [isSlash, Bool.or_eq_false_iff]
      constructor
      · rw [beq_eq_false_iff_ne]
        rintro rfl
        exact absurd hp (by decide)
      · rw [beq_eq_false_iff_ne]
        rintro rfl
        exact absurd hp (by decide)
    cases cs with
    | nil => simp [hc]
    | cons d cs => simp [hc]

end Url

end RegistryLogin
