namespace RegistryLogin.Text

abbrev Bytes := List UInt8

def hexValue? (c : Char) : Option Nat :=
  if '0' ≤ c ∧ c ≤ '9' then some (c.toNat - 48)
  else if 'a' ≤ c ∧ c ≤ 'f' then some (c.toNat - 87)
  else if 'A' ≤ c ∧ c ≤ 'F' then some (c.toNat - 55)
  else none

def upperHexDigit (n : Nat) : Char := Char.ofNat (if n < 10 then 48 + n else 55 + n)

def lowerHexDigit (n : Nat) : Char := Char.ofNat (if n < 10 then 48 + n else 87 + n)

def hexNumber (cs : List Char) : Nat := cs.foldl (fun n c => 16 * n + (hexValue? c).getD 0) 0

def lowerHex (n : Nat) : List Char := Nat.toDigits 16 n

def splitOn (separator : Char) : List Char → List (List Char)
  | [] => [[]]
  | c :: cs =>
    if c = separator then [] :: splitOn separator cs
    else match splitOn separator cs with
      | [] => [[c]]
      | piece :: pieces => (c :: piece) :: pieces

def cutAt? (separator : Char) : List Char → Option (List Char × List Char)
  | [] => none
  | c :: cs =>
    if c = separator then some ([], cs)
    else (cutAt? separator cs).map fun (before, after) => (c :: before, after)

theorem append_of_cutAt? {separator : Char} {cs before after : List Char}
    (h : cutAt? separator cs = some (before, after)) :
    cs = before ++ separator :: after ∧ separator ∉ before := by
  induction cs generalizing before with
  | nil => simp [cutAt?] at h
  | cons c cs ih =>
    by_cases hc : c = separator
    · simp [cutAt?, hc] at h
      obtain ⟨rfl, rfl⟩ := h
      simp [hc]
    · simp [cutAt?, hc] at h
      obtain ⟨b, hb, rfl⟩ := h
      obtain ⟨rfl, hn⟩ := ih hb
      simp [hn, Ne.symm hc]

theorem cutAt?_append {separator : Char} {before after : List Char} (h : separator ∉ before) :
    cutAt? separator (before ++ separator :: after) = some (before, after) := by
  induction before with
  | nil => simp [cutAt?]
  | cons c cs ih =>
    simp only [List.mem_cons, not_or] at h
    simp [cutAt?, Ne.symm h.1, ih h.2]

structure Run (α : Type) where
  label : α
  length : Nat

namespace Run

variable {α : Type}

def label? : List (Run α) → Nat → Option α
  | [], _ => none
  | r :: rs, n => if n < r.length then some r.label else label? rs (n - r.length)

def entries (table : List String) : List (List Char) := table.flatMap (splitOn ' ' ·.toList)

def ofTable (table : List String) : List (Run (List Char)) :=
  (entries table).filterMap fun entry =>
    (cutAt? ':' entry).map fun (label, length) => ⟨label, hexNumber length⟩

end Run

end RegistryLogin.Text
