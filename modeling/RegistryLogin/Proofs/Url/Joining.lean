import RegistryLogin.Proofs.Text.Splitting
import RegistryLogin.Proofs.Url.Domains
import RegistryLogin.Proofs.Url.Paths

namespace RegistryLogin.Url

open RegistryLogin.Text

def isUnreserved (c : Char) : Bool := isPlain c || c == '_' || c == '~'

structure Quiet (segment : List Char) : Prop where
  nonempty : segment ≠ []
  unreserved : ∀ c ∈ segment, isUnreserved c = true
  single : isSingleDot segment = false
  double : isDoubleDot segment = false

instance (segment : List Char) : Decidable (Quiet segment) :=
  decidable_of_iff (segment ≠ [] ∧ segment.all isUnreserved = true ∧
      isSingleDot segment = false ∧ isDoubleDot segment = false)
    ⟨fun h => ⟨h.1, List.all_eq_true.mp h.2.1, h.2.2.1, h.2.2.2⟩,
      fun h => ⟨h.nonempty, List.all_eq_true.mpr h.unreserved, h.single, h.double⟩⟩

variable {base : Url} {first cs : List Char} {rest : List (List Char)}

lemma ascii_of_plain {c : Char} (h : isPlain c = true) : c.toNat < 128 := by
  simp only [isPlain, Bool.or_eq_true, beq_iff_eq] at h
  rcases h with (h | rfl) | rfl
  · exact alphanum_ascii h
  · decide
  · decide

lemma ascii_of_unreserved {c : Char} (h : isUnreserved c = true) : c.toNat < 128 := by
  simp only [isUnreserved, Bool.or_eq_true, beq_iff_eq] at h
  rcases h with (h | rfl) | rfl
  · exact ascii_of_plain h
  · decide
  · decide

lemma visible_of_unreserved {c : Char} (h : isUnreserved c = true) : 0x20 < c.toNat :=
  ascii_forall (P := fun c => isUnreserved c = true → 0x20 < c.toNat) (by decide)
    (ascii_of_unreserved h) h

lemma isPathChar_of_unreserved {c : Char} (h : isUnreserved c = true) : isPathChar c = true :=
  ascii_forall (P := fun c => isUnreserved c = true → isPathChar c = true) (by decide)
    (ascii_of_unreserved h) h

lemma Quiet.settled {segment : List Char} (h : Quiet segment) : Settled segment :=
  ⟨fun c hc => isPathChar_of_unreserved (h.unreserved c hc), h.single, h.double⟩

lemma unreserved_or_slash (h : ∀ segment ∈ first :: rest, Quiet segment) :
    ∀ c ∈ first ++ rest.flatMap ('/' :: ·), isUnreserved c = true ∨ c = '/' := by
  intro c hc
  rcases List.mem_append.mp hc with hc | hc
  · exact .inl ((h first List.mem_cons_self).unreserved c hc)
  · obtain ⟨segment, hs, hc⟩ := List.mem_flatMap.mp hc
    rcases List.mem_cons.mp hc with rfl | hc
    · exact .inr rfl
    · exact .inl ((h segment (List.mem_cons_of_mem _ hs)).unreserved c hc)

lemma scheme?_eq_none (h : ':' ∉ cs) : scheme? cs = none := by
  have other (rest : List Char) : cs.dropWhile isSchemeChar ≠ ':' :: rest := by
    intro cut
    have found : ':' ∈ cs.dropWhile isSchemeChar := by
      rw [cut]
      exact List.mem_cons_self
    exact h ((List.dropWhile_sublist _).mem found)
  rw [scheme?]
  split
  · rename_i rest cut
    exact absurd cut (other rest)
  · cases cs.head? with
    | none => rfl
    | some first => exact Option.bind_fun_none _

lemma relative_segments (base : Url) (h : ∀ segment ∈ first :: rest, Quiet segment) :
    relative base (first ++ rest.flatMap ('/' :: ·)) =
      .ok { base with
        path := resolvePath base.scheme (directory base.path) (first ++ rest.flatMap ('/' :: ·))
        query := none
        fragment := none } := by
  have text := unreserved_or_slash h
  have inside : ∀ c ∈ first ++ rest.flatMap ('/' :: ·), endsPath c = false := by
    intro c hc
    rcases text c hc with unreserved | rfl
    · rw [endsPath, Bool.or_eq_false_iff]
      constructor <;> (rw [beq_eq_false_iff_ne]; rintro rfl; exact absurd unreserved (by decide))
    · rfl
  obtain ⟨c, cs, rfl⟩ := List.exists_cons_of_ne_nil (h first List.mem_cons_self).nonempty
  have hc : isUnreserved c = true := (h _ List.mem_cons_self).unreserved c List.mem_cons_self
  have path : pathText (c :: cs ++ rest.flatMap ('/' :: ·)) = c :: cs ++ rest.flatMap ('/' :: ·) := by
    rw [pathText, ← List.append_nil (_ ++ _), List.takeWhile_append_of_pos (by simpa using inside)]
    simp
  have nothing : afterPath (c :: cs ++ rest.flatMap ('/' :: ·)) = [] := by
    rw [afterPath, ← List.append_nil (_ ++ _), List.dropWhile_append_of_pos (by simpa using inside)]
    simp
  have slashless : isSlash c = false := by
    rw [isSlash, Bool.or_eq_false_iff]
    constructor <;> (rw [beq_eq_false_iff_ne]; rintro rfl; exact absurd hc (by decide))
  -- of all the ways to begin, only that of a path is left
  unfold relative
  split
  · rename_i empty
    cases empty
  · rename_i query
    obtain ⟨rfl, -⟩ := List.cons.inj query
    exact absurd hc (by decide)
  · rename_i fragment
    obtain ⟨rfl, -⟩ := List.cons.inj fragment
    exact absurd hc (by decide)
  · rename_i same
    obtain ⟨rfl, -⟩ := List.cons.inj same
    rw [if_neg (by simp [slashless]), path, nothing]
    rfl

theorem join_segments {list : List (List Char)} (web : isWeb base.scheme = true)
    (path : base.path = .segments list) {reference : String}
    (text : reference.toList = first ++ rest.flatMap ('/' :: ·))
    (h : ∀ segment ∈ first :: rest, Quiet segment) :
    base.join reference = .ok { base with
      path := .segments (list.dropLast ++ first :: rest)
      query := none
      fragment := none } := by
  have chars := unreserved_or_slash h
  have settled : ∀ segment ∈ first :: rest, Settled segment := fun segment hs => (h segment hs).settled
  have tidied : tidy (first ++ rest.flatMap ('/' :: ·)) = first ++ rest.flatMap ('/' :: ·) := by
    refine tidy_eq fun c hc => ?_
    rcases chars c hc with unreserved | rfl
    · exact visible_of_unreserved unreserved
    · decide
  have unnamed : scheme? (first ++ rest.flatMap ('/' :: ·)) = none := by
    refine scheme?_eq_none fun hc => ?_
    rcases chars _ hc with unreserved | slash
    · exact absurd unreserved (by decide)
    · exact absurd slash (by decide)
  have segmented : base.path.isOpaque = false := by rw [path]; rfl
  rw [join, read, text, tidied, unnamed]
  simp only [withoutScheme_web web segmented, relative_segments base h]
  simp only [resolvePath, isFile_of_web web, pieces_segments _ settled, resolve_settled settled, path, directory]
  simp

end RegistryLogin.Url
