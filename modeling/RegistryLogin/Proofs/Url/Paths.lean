import Mathlib.Data.List.Basic
import RegistryLogin.Proofs.Text.Splitting
import RegistryLogin.Proofs.Url.References

namespace RegistryLogin.Url

variable {c : Char} {cs segment first : List Char} {rest done list : List (List Char)}

def isPathChar (c : Char) : Bool := c.toNat < 128 && !Percent.inPath c && c != '/' && c != '\\'

structure Settled (segment : List Char) : Prop where
  chars : ∀ c ∈ segment, isPathChar c = true
  single : isSingleDot segment = false
  double : isDoubleDot segment = false

lemma settled_nil : Settled [] := ⟨by simp, rfl, rfl⟩

lemma encode_path (h : ∀ c ∈ cs, isPathChar c = true) : Percent.encode Percent.inPath cs = cs := by
  induction cs with
  | nil => rfl
  | cons c cs ih =>
    obtain ⟨hc, further⟩ := List.forall_mem_cons.mp h
    simp only [isPathChar, Bool.and_eq_true, decide_eq_true_eq, Bool.not_eq_true'] at hc
    have kept : (decide (0x80 ≤ c.toNat) || Percent.inPath c) = false := by
      simp [hc.1.1.1, hc.1.1.2]
    have ih := ih further
    rw [Percent.encode] at ih ⊢
    rw [List.flatMap_cons, ih, kept]
    rfl

lemma pieces_path (special : Bool) (h : ∀ c ∈ cs, isPathChar c = true) :
    pieces special cs = [cs] ∧
      ∀ behind, pieces special (cs ++ '/' :: behind) = cs :: pieces special behind := by
  induction cs with
  | nil => exact ⟨rfl, fun behind => by simp [pieces]⟩
  | cons c cs ih =>
    obtain ⟨hc, further⟩ := List.forall_mem_cons.mp h
    obtain ⟨alone, before⟩ := ih further
    have inside : ¬ (c = '/' ∨ (special ∧ c = '\\')) := by
      rintro (rfl | ⟨-, rfl⟩) <;> exact absurd hc (by decide)
    refine ⟨by rw [pieces, if_neg inside, alone], fun behind => ?_⟩
    rw [List.cons_append, pieces, if_neg inside, before]

lemma pieces_segments (special : Bool) (h : ∀ segment ∈ first :: rest, Settled segment) :
    pieces special (first ++ rest.flatMap ('/' :: ·)) = first :: rest := by
  induction rest generalizing first with
  | nil => simpa using (pieces_path special (h first List.mem_cons_self).chars).1
  | cons second rest ih =>
    obtain ⟨hf, further⟩ := List.forall_mem_cons.mp h
    rw [List.flatMap_cons, List.cons_append, (pieces_path special hf.chars).2, ih further]

lemma resolve_settled (h : ∀ segment ∈ rest, Settled segment) (done : List (List Char)) :
    resolve false done rest = done.reverse ++ rest := by
  induction rest generalizing done with
  | nil => simp [resolve]
  | cons segment rest ih =>
    obtain ⟨hs, further⟩ := List.forall_mem_cons.mp h
    -- the last segment has no slash behind it and is resolved by a rule of its own
    cases rest with
    | nil => simp [resolve, encode_path hs.chars, hs.single, hs.double, normalDrive]
    | cons next rest =>
      have step : resolve false done (segment :: next :: rest) =
          resolve false (segment :: done) (next :: rest) := by
        simp [resolve, encode_path hs.chars, hs.single, hs.double, normalDrive]
      rw [step, ih further]
      simp

lemma isPathChar_encodeByte (b : UInt8) : ∀ c ∈ Percent.encodeByte b, isPathChar c = true := by
  have digits : ∀ n < 16, isPathChar (Text.upperHexDigit n) = true := by decide
  have high := digits (b.toNat / 16) (by have := b.toNat_lt; omega)
  have low := digits (b.toNat % 16) (Nat.mod_lt _ (by decide))
  simp only [Percent.encodeByte, List.forall_mem_cons]
  exact ⟨by decide, high, low, by simp⟩

lemma isPathChar_encode (slash : '/' ∉ cs) (backslash : '\\' ∉ cs) :
    ∀ c ∈ Percent.encode Percent.inPath cs, isPathChar c = true := by
  intro c hc
  obtain ⟨d, hd, hc⟩ := List.mem_flatMap.mp hc
  split at hc
  · obtain ⟨b, -, hc⟩ := List.mem_flatMap.mp hc
    exact isPathChar_encodeByte b c hc
  · rename_i kept
    obtain rfl := List.mem_singleton.mp hc
    have hs : c ≠ '/' := fun same => slash (same ▸ hd)
    have hb : c ≠ '\\' := fun same => backslash (same ▸ hd)
    simp only [Bool.or_eq_true, decide_eq_true_eq, not_or, Bool.not_eq_true] at kept
    simp [isPathChar, kept.2, hs, hb, Nat.lt_of_not_le kept.1]

lemma slash_not_mem_pieces : ∀ piece ∈ pieces true cs, '/' ∉ piece ∧ '\\' ∉ piece := by
  induction cs with
  | nil => simp [pieces]
  | cons c cs ih =>
    rw [pieces]
    split
    · simpa using ih
    · rename_i inside
      simp only [not_or, true_and] at inside
      split
      · simp [Ne.symm inside.1, Ne.symm inside.2]
      · rename_i piece rest split
        rw [split] at ih
        obtain ⟨hp, further⟩ := List.forall_mem_cons.mp ih
        refine List.forall_mem_cons.mpr ⟨?_, further⟩
        simp [Ne.symm inside.1, Ne.symm inside.2, hp]

lemma mem_of_mem_shorten (h : segment ∈ shorten done) : segment ∈ done := by
  cases done with
  | nil => exact h
  | cons last done =>
    rw [shorten] at h
    split at h
    · exact h
    · exact List.mem_cons_of_mem last h

theorem settled_resolve (hd : ∀ segment ∈ done, Settled segment)
    (hp : ∀ piece ∈ rest, '/' ∉ piece ∧ '\\' ∉ piece) :
    ∀ segment ∈ resolve false done rest, Settled segment := by
  induction rest generalizing done with
  | nil => simpa [resolve] using hd
  | cons piece rest ih =>
    obtain ⟨⟨slash, backslash⟩, further⟩ := List.forall_mem_cons.mp hp
    have shortened : ∀ segment ∈ shorten done, Settled segment := fun segment hs =>
      hd segment (mem_of_mem_shorten hs)
    have kept (double : isDoubleDot (Percent.encode Percent.inPath piece) = false)
        (single : isSingleDot (Percent.encode Percent.inPath piece) = false) :
        ∀ segment ∈ Percent.encode Percent.inPath piece :: done, Settled segment :=
      List.forall_mem_cons.mpr ⟨⟨isPathChar_encode slash backslash, single, double⟩, hd⟩
    cases rest with
    | nil =>
      simp only [resolve, List.mem_reverse, normalDrive]
      split
      · exact List.forall_mem_cons.mpr ⟨settled_nil, shortened⟩
      rename_i double
      split
      · exact List.forall_mem_cons.mpr ⟨settled_nil, hd⟩
      · rename_i single
        exact kept (eq_false_of_ne_true double) (eq_false_of_ne_true single)
    | cons next rest =>
      simp only [resolve, normalDrive]
      split
      · exact ih shortened further
      rename_i double
      split
      · exact ih hd further
      · rename_i single
        exact ih (kept (eq_false_of_ne_true double) (eq_false_of_ne_true single)) further

lemma authorityPath_settled {scheme : List Char} (web : isWeb scheme = true) (cs : List Char) :
    ∃ list, authorityPath scheme cs = .segments list ∧ ∀ segment ∈ list, Settled segment := by
  have read (cs : List Char) : resolvePath scheme [] cs = .segments (resolve false [] (pieces true cs)) ∧
      ∀ segment ∈ resolve false [] (pieces true cs), Settled segment := by
    rw [resolvePath, isFile_of_web web, isSpecial_of_web web]
    exact ⟨rfl, settled_resolve (by simp) slash_not_mem_pieces⟩
  rw [authorityPath.eq_def]
  cases cs with
  | nil => exact ⟨[[]], by simp [isSpecial_of_web web], by simpa using settled_nil⟩
  | cons c cs =>
    dsimp only
    split
    · exact ⟨_, read cs⟩
    · exact ⟨_, read (c :: cs)⟩

theorem settled_of_parse {text : String} {url : Url} (h : parse text = .ok url)
    (web : isWeb url.scheme = true) :
    ∃ list, url.path = .segments list ∧ ∀ segment ∈ list, Settled segment := by
  obtain ⟨cs, path⟩ := parse_path h web
  rw [path]
  exact authorityPath_settled web cs

def withPath (url : Url) (cs : List Char) : Url :=
  { url with path := authorityPath url.scheme (cs.filter (!isLineBreak ·)) }

def directoryText (cs : List Char) : List Char := if cs.getLast? = some '/' then cs else cs ++ ['/']

lemma toText_append (list rest : List (List Char)) : (UrlPath.segments (list ++ rest)).toText =
    (UrlPath.segments list).toText ++ rest.flatMap ('/' :: ·) := List.flatMap_append

lemma getLast?_toText (h : ∀ segment ∈ list, Settled segment) :
    (UrlPath.segments list).toText.getLast? = some '/' ↔ list.getLast? = some [] := by
  rcases List.eq_nil_or_concat' list with rfl | ⟨front, last, rfl⟩
  · simp [UrlPath.toText]
  · have settled := h last (by simp)
    rw [toText_append, List.flatMap_singleton, List.getLast?_append, List.getLast?_cons,
      List.getLast?_concat]
    cases hl : last.getLast? with
    | none => simp [List.getLast?_eq_none_iff.mp hl]
    | some c =>
      have plain : c ≠ '/' := by
        rintro rfl
        exact absurd (settled.chars _ (List.mem_of_getLast? hl)) (by decide)
      have nonempty : last ≠ [] := by
        rintro rfl
        cases hl
      simp [plain, nonempty]

lemma asDirectory_toText (h : ∀ segment ∈ list, Settled segment) :
    (UrlPath.segments list).asDirectory.toText = directoryText (UrlPath.segments list).toText := by
  rw [UrlPath.asDirectory, directoryText]
  simp only [getLast?_toText h]
  split
  · rfl
  · rw [toText_append]
    rfl

lemma authorityPath_toText {scheme : List Char} (web : isWeb scheme = true)
    (h : ∀ segment ∈ list, Settled segment) :
    authorityPath scheme ((UrlPath.segments list).toText ++ ['/']) = .segments (list ++ [[]]) := by
  have read {first : List Char} {rest : List (List Char)} (h : ∀ segment ∈ first :: rest, Settled segment) :
      resolvePath scheme [] (first ++ rest.flatMap ('/' :: ·)) = .segments (first :: rest) := by
    rw [resolvePath, isFile_of_web web, pieces_segments _ h, List.reverse_nil, resolve_settled h]
    rfl
  have all : ∀ segment ∈ list ++ [[]], Settled segment := by
    intro segment hs
    rcases List.mem_append.mp hs with hs | hs
    · exact h segment hs
    · exact List.mem_singleton.mp hs ▸ settled_nil
  rw [show ['/'] = [[]].flatMap ('/' :: ·) from rfl, ← toText_append]
  generalize hl : list ++ [[]] = whole at all ⊢
  cases whole with
  | nil => simp at hl
  | cons first rest =>
    rw [UrlPath.toText, List.flatMap_cons, List.cons_append, authorityPath, if_pos (.inl rfl)]
    exact read all

lemma filter_toText (h : ∀ segment ∈ list, Settled segment) :
    ((UrlPath.segments list).toText ++ ['/']).filter (!isLineBreak ·) =
      (UrlPath.segments list).toText ++ ['/'] := by
  have broken : ∀ c, isPathChar c = true → isLineBreak c = false := by
    intro c hc
    simp only [isLineBreak, Bool.or_eq_false_iff, beq_eq_false_iff_ne]
    refine ⟨⟨?_, ?_⟩, ?_⟩ <;> (rintro rfl; exact absurd hc (by decide))
  rw [List.filter_eq_self]
  intro c hc
  rcases List.mem_append.mp hc with hc | hc
  · obtain ⟨segment, hs, hc⟩ := List.mem_flatMap.mp hc
    rcases List.mem_cons.mp hc with rfl | hc
    · decide
    · rw [broken c ((h segment hs).chars c hc), Bool.not_false]
  · rw [List.mem_singleton.mp hc]
    decide

theorem asDirectory_eq {url : Url} (web : isWeb url.scheme = true) (path : url.path = .segments list)
    (h : ∀ segment ∈ list, Settled segment) :
    url.asDirectory = if url.path.toText.getLast? = some '/' then url
      else url.withPath (url.path.toText ++ ['/']) := by
  rw [asDirectory, withPath, path, filter_toText h, authorityPath_toText web h, UrlPath.asDirectory]
  simp only [getLast?_toText h]
  split
  · rw [← path]
  · rfl

end RegistryLogin.Url
