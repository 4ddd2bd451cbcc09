namespace RegistryLogin.Url.Idna.Punycode

def digitChar (d : Nat) : Char := if d < 26 then Char.ofNat (97 + d) else Char.ofNat (22 + d)

def digit? (c : Char) : Option Nat :=
  if 'a' ≤ c ∧ c ≤ 'z' then some (c.toNat - 97)
  else if 'A' ≤ c ∧ c ≤ 'Z' then some (c.toNat - 65)
  else if '0' ≤ c ∧ c ≤ '9' then some (c.toNat - 22)
  else none

def bound (position bias : Nat) : Nat :=
  if position ≤ bias then 1 else if bias + 26 ≤ position then 26 else position - bias

theorem bound_pos (position bias : Nat) : 1 ≤ bound position bias := by
  unfold bound
  split
  · omega
  · split <;> omega

theorem bound_le (position bias : Nat) : bound position bias ≤ 26 := by
  unfold bound
  split
  · omega
  · split <;> omega

def damp (delta position : Nat) : Nat × Nat :=
  if 455 < delta then damp (delta / 35) (position + 36) else (delta, position)
termination_by delta
decreasing_by exact Nat.div_lt_self (by omega) (by omega)

def adapt (delta count : Nat) (first : Bool) : Nat :=
  let delta := if first then delta / 700 else delta / 2
  let (rest, position) := damp (delta + delta / count) 0
  position + 36 * rest / (rest + 38)

def digits (bias position n : Nat) : List Char :=
  let t := bound position bias
  if n < t then [digitChar n]
  else digitChar (t + (n - t) % (36 - t)) :: digits bias (position + 36) ((n - t) / (36 - t))
termination_by n
decreasing_by
  have := bound_pos position bias
  have := bound_le position bias
  calc (n - bound position bias) / (36 - bound position bias)
      ≤ n - bound position bias := Nat.div_le_self _ _
    _ < n := by omega

structure Writer where
  text : List Char
  delta : Nat
  bias : Nat
  placed : Nat

def Writer.pass (level basic : Nat) (w : Writer) (c : Char) : Writer :=
  if c.toNat < level then { w with delta := w.delta + 1 }
  else if c.toNat = level then
    { text := w.text ++ digits w.bias 36 w.delta, delta := 0,
      bias := adapt w.delta (w.placed + 1) (w.placed = basic), placed := w.placed + 1 }
  else w

def Writer.levels (label : List Char) (basic : Nat) : List Nat → Nat → Writer → Writer
  | [], _, w => w
  | level :: rest, last, w =>
    let w := label.foldl (pass level basic)
      { w with delta := w.delta + (level - last) * (w.placed + 1) }
    levels label basic rest (level + 1) { w with delta := w.delta + 1 }

def distinct : List Nat → List Nat
  | a :: b :: rest => if a = b then distinct (b :: rest) else a :: distinct (b :: rest)
  | short => short

def encode (label : List Char) : List Char :=
  let basic := label.filter (·.toNat < 128)
  let levels := distinct ((label.filter (128 ≤ ·.toNat)).map (·.toNat)).mergeSort
  basic ++ (if basic.isEmpty then [] else ['-']) ++
    (Writer.levels label basic.length levels 128 ⟨[], 0, 72, basic.length⟩).text

def number? (bias : Nat) : List Char → (position weight i : Nat) → Option (Nat × List Char)
  | [], _, _, _ => none
  | c :: rest, position, weight, i =>
    (digit? c).bind fun d =>
      if d < bound position bias then some (i + d * weight, rest)
      else number? bias rest (position + 36) (weight * (36 - bound position bias)) (i + d * weight)

theorem length_number? {bias position weight i n : Nat} {cs rest : List Char}
    (h : number? bias cs position weight i = some (n, rest)) : rest.length < cs.length := by
  induction cs generalizing position weight i with
  | nil => simp [number?] at h
  | cons c cs ih =>
    rw [number?, Option.bind_eq_some_iff] at h
    obtain ⟨d, -, h⟩ := h
    split at h
    · simp at h
      simp [h]
    · have := ih h
      simp only [List.length_cons]
      omega

def place? (bias level i : Nat) (placed : List Char) (cs : List Char) : Option (List Char) :=
  match cs with
  | [] => some placed
  | c :: cs =>
    match _h : number? bias (c :: cs) 36 1 i with
    | none => none
    | some (j, rest) =>
      let count := placed.length + 1
      let level := level + j / count
      if level < 0xD800 ∨ (0xDFFF < level ∧ level < 0x110000) then
        place? (adapt (j - i) count (i = 0)) level (j % count + 1)
          (placed.take (j % count) ++ Char.ofNat level :: placed.drop (j % count)) rest
      else none
termination_by cs.length
decreasing_by
  have := length_number? ‹number? bias (c :: cs) 36 1 i = some (j, rest)›
  simpa using this

def cut (cs : List Char) : List Char × List Char :=
  match cs.reverse.dropWhile (· ≠ '-') with
  | [] => ([], cs)
  | _ :: basic => (basic.reverse, (cs.reverse.takeWhile (· ≠ '-')).reverse)

def decode? (cs : List Char) : Option (List Char) :=
  let (basic, rest) := cut cs
  if basic.all (·.toNat < 128) then place? 72 128 0 basic rest else none

end RegistryLogin.Url.Idna.Punycode
