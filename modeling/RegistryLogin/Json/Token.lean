import RegistryLogin.Json.Number
import RegistryLogin.Text.Utf8

namespace RegistryLogin.Json

open RegistryLogin.Text

inductive Break
  | ended
  | malformed
deriving DecidableEq, Repr

structure Flaw where
  reading : Break
  skipping : Break
deriving DecidableEq, Repr

namespace Flaw

def both (b : Break) : Flaw := ⟨b, b⟩

def cutNumber : Flaw := ⟨.ended, .malformed⟩

end Flaw

inductive Token
  | openObject | closeObject | openArray | closeArray | comma | colon
  | null
  | bool (b : Bool)
  | number (value : Option Number)
  | string (text : Option (List Char))
  | brokenText (flaw : Flaw)
  | brokenWord (flaw : Flaw)
  | finish
deriving DecidableEq, Repr

def isSpace (b : UInt8) : Bool := b == 0x20 || b == 0x0A || b == 0x09 || b == 0x0D

def isDigit (b : UInt8) : Bool := 0x30 ≤ b.toNat && b.toNat ≤ 0x39

inductive Unit16
  | byte (b : UInt8)
  | escape (n : Nat)
deriving DecidableEq

def hexByte? (b : UInt8) : Option Nat := hexValue? (Char.ofNat b.toNat)

def escapedByte? (b : UInt8) : Option UInt8 :=
  if b == 0x22 || b == 0x5C || b == 0x2F then some b
  else if b == 0x62 then some 0x08
  else if b == 0x66 then some 0x0C
  else if b == 0x6E then some 0x0A
  else if b == 0x72 then some 0x0D
  else if b == 0x74 then some 0x09
  else none

structure Body where
  units : List Unit16
  stop : Except Break Bytes

namespace Body

def cons (u : Unit16) (body : Body) : Body := ⟨u :: body.units, body.stop⟩

def closed (rest : Bytes) : Body := ⟨[], .ok rest⟩

def broken (b : Break) : Body := ⟨[], .error b⟩

end Body

def scanString : Bytes → Body
  | [] => .broken .ended
  | b :: rest =>
    if b == 0x22 then .closed rest
    else if b == 0x5C then
      match rest with
      | [] => .broken .ended
      | e :: rest =>
        if e == 0x75 then
          match rest with
          | h₁ :: h₂ :: h₃ :: h₄ :: rest =>
            match hexByte? h₁, hexByte? h₂, hexByte? h₃, hexByte? h₄ with
            | some a, some b, some c, some d =>
              (scanString rest).cons (.escape (((a * 16 + b) * 16 + c) * 16 + d))
            | _, _, _, _ => .broken .malformed
          | _ => .broken .ended
        else match escapedByte? e with
          | some c => (scanString rest).cons (.byte c)
          | none => .broken .malformed
    else if b.toNat < 0x20 then .broken .malformed
    else (scanString rest).cons (.byte b)

def isLead (n : Nat) : Bool := 0xD800 ≤ n && n ≤ 0xDBFF
def isTrail (n : Nat) : Bool := 0xDC00 ≤ n && n ≤ 0xDFFF

def hasLoneSurrogate : List Unit16 → Bool
  | [] => false
  | .byte _ :: units => hasLoneSurrogate units
  | .escape n :: units =>
    if isTrail n then true
    else if isLead n then
      match units with
      | [] => false
      | .escape m :: units => !isTrail m || hasLoneSurrogate units
      | .byte _ :: _ => true
    else hasLoneSurrogate units

def unitBytes? : List Unit16 → Option Bytes
  | [] => some []
  | .byte b :: units => (unitBytes? units).map (b :: ·)
  | .escape n :: units =>
    if isTrail n then none
    else if isLead n then
      match units with
      | .escape m :: units =>
        if isTrail m then
          (unitBytes? units).map
            (String.utf8EncodeChar (Char.ofNat ((n - 0xD800) * 1024 + (m - 0xDC00) + 0x10000)) ++ ·)
        else none
      | _ => none
    else (unitBytes? units).map (String.utf8EncodeChar (Char.ofNat n) ++ ·)

def unitText? (units : List Unit16) : Option (List Char) := (unitBytes? units).bind Utf8.decode?

def stringToken (rest : Bytes) : Token × Bytes :=
  match scanString rest with
  | ⟨units, .ok rest⟩ => (.string (unitText? units), rest)
  | ⟨units, .error .ended⟩ =>
    (.brokenText ⟨if hasLoneSurrogate units then .malformed else .ended, .ended⟩, [])
  | ⟨_, .error .malformed⟩ => (.brokenText (.both .malformed), [])

def digitsOf (bytes : Bytes) : List Nat := (bytes.takeWhile isDigit).map (·.toNat - 48)

def someDigits (bytes : Bytes) : Except Flaw (List Nat × Bytes) :=
  match digitsOf bytes with
  | [] => .error (if bytes.isEmpty then .cutNumber else .both .malformed)
  | digits => .ok (digits, bytes.dropWhile isDigit)

def exponentSign : Bytes → Bool × Bytes
  | [] => (false, [])
  | s :: rest =>
    if s == 0x2D then (true, rest) else if s == 0x2B then (false, rest) else (false, s :: rest)

def exponentPart (bytes : Bytes) : Except Flaw (Option (Bool × List Nat) × Bytes) :=
  match bytes with
  | e :: rest =>
    if e == 0x65 || e == 0x45 then
      match someDigits (exponentSign rest).2 with
      | .ok (digits, more) => .ok (some ((exponentSign rest).1, digits), more)
      | .error flaw => .error flaw
    else .ok (none, bytes)
  | [] => .ok (none, bytes)

def fractionPart (bytes : Bytes) : Except Flaw (List Nat × Bytes) :=
  match bytes with
  | p :: rest => if p == 0x2E then someDigits rest else .ok ([], bytes)
  | [] => .ok ([], bytes)

def wholePart (bytes : Bytes) : Except Flaw (List Nat × Bytes) := do
  let (digits, rest) ← someDigits bytes
  match digits with
  | 0 :: _ :: _ => .error (.both .malformed)
  | _ => .ok (digits, rest)

def scanNumber (negative : Bool) (bytes : Bytes) : Except Flaw (Numeral × Bytes) := do
  let (whole, rest) ← wholePart bytes
  let (fraction, rest) ← fractionPart rest
  let (exponent, rest) ← exponentPart rest
  .ok (⟨negative, whole, fraction, exponent⟩, rest)

def numberToken (negative : Bool) (bytes : Bytes) : Token × Bytes :=
  match scanNumber negative bytes with
  | .ok (numeral, rest) => (.number numeral.value?, rest)
  | .error flaw => (.brokenWord flaw, [])

def nameToken (token : Token) : (letters : List Char) → Bytes → Token × Bytes
  | [], rest => (token, rest)
  | _ :: _, [] => (.brokenWord (.both .ended), [])
  | c :: letters, b :: rest =>
    if b.toNat = c.toNat then nameToken token letters rest else (.brokenWord (.both .malformed), [])

def punctuation? (b : UInt8) : Option Token :=
  if b == 0x7B then some .openObject
  else if b == 0x7D then some .closeObject
  else if b == 0x5B then some .openArray
  else if b == 0x5D then some .closeArray
  else if b == 0x2C then some .comma
  else if b == 0x3A then some .colon
  else none

def tokenAt (b : UInt8) (rest : Bytes) : Token × Bytes :=
  match punctuation? b with
  | some token => (token, rest)
  | none =>
    if b == 0x22 then stringToken rest
    else if b == 0x2D then numberToken true rest
    else if isDigit b then numberToken false (b :: rest)
    else if b == 0x6E then nameToken .null ['u', 'l', 'l'] rest
    else if b == 0x74 then nameToken (.bool true) ['r', 'u', 'e'] rest
    else if b == 0x66 then nameToken (.bool false) ['a', 'l', 's', 'e'] rest
    else (.brokenWord (.both .malformed), [])

theorem length_scanString {bytes rest : Bytes} (h : (scanString bytes).stop = .ok rest) :
    rest.length ≤ bytes.length := by
  induction hn : bytes.length using Nat.strongRecOn generalizing bytes with
  | ind n ih =>
    subst hn
    have step {tail : Bytes} {u : Unit16} (ht : tail.length < bytes.length)
        (hs : ((scanString tail).cons u).stop = .ok rest) : rest.length ≤ bytes.length :=
      Nat.le_trans (ih tail.length ht hs rfl) (Nat.le_of_lt ht)
    unfold scanString at h
    split at h
    · cases h
    · split at h
      · cases h
        exact Nat.le_succ _
      · repeat' split at h
        all_goals first
          | exact step (by simp only [List.length_cons]; omega) h
          | cases h

theorem length_dropWhile_isDigit (bytes : Bytes) : (bytes.dropWhile isDigit).length ≤ bytes.length :=
  (List.dropWhile_sublist _).length_le

theorem length_someDigits {bytes rest : Bytes} {digits : List Nat}
    (h : someDigits bytes = .ok (digits, rest)) : rest.length < bytes.length := by
  cases bytes with
  | nil => simp [someDigits, digitsOf] at h
  | cons b bytes =>
    by_cases hb : isDigit b
    · simp [someDigits, digitsOf, hb] at h
      obtain ⟨-, rfl⟩ := h
      exact Nat.lt_succ_of_le (length_dropWhile_isDigit bytes)
    · simp [someDigits, digitsOf, hb] at h

theorem length_exponentSign (bytes : Bytes) : (exponentSign bytes).2.length ≤ bytes.length := by
  unfold exponentSign
  split
  · simp
  · split
    · simp
    · split <;> simp

theorem length_exponentPart {bytes rest : Bytes} {e : Option (Bool × List Nat)}
    (h : exponentPart bytes = .ok (e, rest)) : rest.length ≤ bytes.length := by
  unfold exponentPart at h
  split at h
  · next b more =>
    split at h
    · split at h
      · next hd =>
        simp only [Except.ok.injEq, Prod.mk.injEq] at h
        obtain ⟨-, rfl⟩ := h
        have := length_someDigits hd
        have := length_exponentSign more
        simp only [List.length_cons]
        omega
      · simp at h
    · simp at h; simp [h]
  · simp at h; simp [h]

theorem length_fractionPart {bytes rest : Bytes} {digits : List Nat}
    (h : fractionPart bytes = .ok (digits, rest)) : rest.length ≤ bytes.length := by
  unfold fractionPart at h
  split at h
  · split at h
    · have := length_someDigits h; simp; omega
    · simp at h; simp [h]
  · simp at h; simp [h]

theorem length_wholePart {bytes rest : Bytes} {digits : List Nat}
    (h : wholePart bytes = .ok (digits, rest)) : rest.length < bytes.length := by
  simp only [wholePart, bind, Except.bind] at h
  split at h
  · simp at h
  · next hd =>
    have := length_someDigits hd
    split at h <;> simp at h
    obtain ⟨-, rfl⟩ := h
    exact this

theorem length_scanNumber {negative : Bool} {bytes rest : Bytes} {numeral : Numeral}
    (h : scanNumber negative bytes = .ok (numeral, rest)) : rest.length < bytes.length := by
  simp only [scanNumber, bind, Except.bind] at h
  split at h
  · simp at h
  · next hw =>
    split at h
    · simp at h
    · next hf =>
      split at h
      · simp at h
      · next he =>
        simp at h
        have := length_wholePart hw
        have := length_fractionPart hf
        have := length_exponentPart he
        obtain ⟨-, rfl⟩ := h
        omega

theorem length_stringToken (rest : Bytes) : (stringToken rest).2.length ≤ rest.length := by
  unfold stringToken
  split
  · next h => exact length_scanString (by rw [h])
  · simp
  · simp

theorem length_numberToken (negative : Bool) (bytes : Bytes) :
    (numberToken negative bytes).2.length ≤ bytes.length := by
  unfold numberToken
  split
  · next h => exact Nat.le_of_lt (length_scanNumber h)
  · simp

theorem length_numberToken_lt (negative : Bool) (b : UInt8) (bytes : Bytes) :
    (numberToken negative (b :: bytes)).2.length ≤ bytes.length := by
  unfold numberToken
  split
  · next h => simpa using Nat.le_of_lt_succ (length_scanNumber h)
  · simp

theorem length_nameToken (token : Token) (letters : List Char) (bytes : Bytes) :
    (nameToken token letters bytes).2.length ≤ bytes.length := by
  fun_induction nameToken token letters bytes <;> simp_all
  omega

theorem length_tokenAt (b : UInt8) (rest : Bytes) : (tokenAt b rest).2.length ≤ rest.length := by
  have := length_stringToken rest
  have := length_numberToken true rest
  have := length_numberToken_lt false b rest
  have := length_nameToken .null ['u', 'l', 'l'] rest
  have := length_nameToken (.bool true) ['r', 'u', 'e'] rest
  have := length_nameToken (.bool false) ['a', 'l', 's', 'e'] rest
  grind [tokenAt]

def tokens : Bytes → List Token
  | [] => [.finish]
  | b :: rest =>
    if isSpace b then tokens rest
    else (tokenAt b rest).1 :: tokens (tokenAt b rest).2
termination_by bytes => bytes.length
decreasing_by
  · simp
  · have := length_tokenAt b rest; simp; omega

end RegistryLogin.Json
