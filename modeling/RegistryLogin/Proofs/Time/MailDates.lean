import RegistryLogin.Time.MailDate
import Mathlib.Tactic.Lemma

namespace RegistryLogin

namespace MailDate

variable {α : Type} {depth count n : Nat} {names : List (String × α)} {a : α} {cs rest : List Char}

lemma afterComment_suffix (h : afterComment depth cs = some rest) : rest <:+ cs := by
  fun_induction afterComment depth cs with
  | case1 => cases h
  | case2 _ _ ih => exact (ih h).trans (List.suffix_cons _ _)
  | case3 _ cs =>
    obtain rfl := Option.some.inj h
    exact List.suffix_cons _ _
  | case4 _ _ _ ih => exact (ih h).trans (List.suffix_cons _ _)
  | case5 _ _ _ ih => exact (ih h).trans ((List.suffix_cons _ _).trans (List.suffix_cons _ _))
  | case6 _ _ _ _ _ _ _ ih => exact (ih h).trans (List.suffix_cons _ _)
  | case7 => cases h

lemma skipFolding_suffix (cs : List Char) : skipFolding cs <:+ cs := by
  fun_induction skipFolding cs with
  | case1 => exact List.suffix_rfl
  | case2 _ _ _ ih => exact ih.trans (List.suffix_cons _ _)
  | case3 _ _ found _ ih => exact ih.trans ((afterComment_suffix found).trans (List.suffix_cons _ _))
  | case4 => exact List.suffix_rfl
  | case5 => exact List.suffix_rfl

lemma folding_suffix (h : folding cs = some rest) : rest <:+ cs := by
  simp only [folding] at h
  split at h
  · obtain rfl := Option.some.inj h
    exact skipFolding_suffix cs
  · cases h

lemma digits_suffix (h : digits count cs = some (n, rest)) : rest <:+ cs := by
  simp only [digits] at h
  split at h
  · obtain ⟨-, rfl⟩ := Prod.mk.inj (Option.some.inj h)
    exact List.drop_suffix count cs
  · cases h

lemma dayOfMonth_suffix (h : dayOfMonth cs = some (n, rest)) : rest <:+ cs := by
  rcases Option.or_eq_some_iff.mp h with two | ⟨-, one⟩
  · exact digits_suffix two
  · exact digits_suffix one

lemma name_eq_some (h : name names cs = some (a, rest)) : rest <:+ cs ∧
    ∃ text, (text, a) ∈ names ∧ (cs.take text.length).map Char.toLower = text.toList := by
  obtain ⟨⟨text, value⟩, hm, found⟩ := List.exists_of_findSome?_eq_some h
  simp only at found
  split at found
  · rename_i front
    obtain ⟨rfl, rfl⟩ := Prod.mk.inj (Option.some.inj found)
    exact ⟨List.drop_suffix _ cs, text, hm, front⟩
  · cases found

lemma dayName_suffix (h : dayName cs = some rest) : rest <:+ cs := by
  simp only [dayName] at h
  split at h
  · obtain rfl := Option.some.inj h
    exact List.suffix_rfl
  · rename_i behind found
    obtain ⟨after, comma, rfl⟩ := Option.map_eq_some_iff.mp h
    have inside : after <:+ behind := by
      cases behind with
      | nil => cases comma
      | cons c behind =>
        simp only [literal] at comma
        split at comma
        · obtain rfl := Option.some.inj comma
          exact List.suffix_cons _ _
        · cases comma
    exact (skipFolding_suffix after).trans (inside.trans (name_eq_some found).1)

lemma isAlpha_of_toLower {c : Char} (h : c.toLower.isLower = true) : c.isAlpha = true := by
  change (c.isUpper || c.isLower) = true
  by_cases upper : c.val ≥ 'A'.val ∧ c.val ≤ 'Z'.val
  · have capital : c.isUpper = true := decide_eq_true upper
    rw [capital, Bool.true_or]
  · have same : c.toLower = c := dif_neg upper
    rw [← same, h, Bool.or_true]

theorem any_letter {date : Instant} (h : parse? cs = some date) : cs.any Char.isAlpha = true := by
  obtain ⟨dated, day, h⟩ := Option.bind_eq_some_iff.mp h
  obtain ⟨⟨_, behind⟩, number, h⟩ := Option.bind_eq_some_iff.mp h
  obtain ⟨spaced, space, h⟩ := Option.bind_eq_some_iff.mp h
  obtain ⟨_, named, -⟩ := Option.bind_eq_some_iff.mp h
  obtain ⟨-, text, hm, front⟩ := name_eq_some named
  have inside : spaced <:+ cs := (folding_suffix space).trans <| (dayOfMonth_suffix number).trans <|
    (dayName_suffix day).trans (skipFolding_suffix cs)
  have letters : ∀ month ∈ monthNames, month.1.toList.any Char.isLower = true := by decide
  obtain ⟨c, hc, lower⟩ := List.any_eq_true.mp (letters _ hm)
  rw [← front] at hc
  obtain ⟨d, hd, rfl⟩ := List.mem_map.mp hc
  exact List.any_eq_true.mpr ⟨d, inside.subset (List.mem_of_mem_take hd), isAlpha_of_toLower lower⟩

end MailDate

end RegistryLogin
