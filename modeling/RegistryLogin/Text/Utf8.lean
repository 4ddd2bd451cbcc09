import RegistryLogin.Text.Hex

namespace RegistryLogin.Text.Utf8

def encode (cs : List Char) : Bytes := cs.flatMap String.utf8EncodeChar

def ofString (s : String) : Bytes := encode s.toList

def isContinuation (b : UInt8) : Bool := 0x80 ≤ b.toNat && b.toNat < 0xC0

def admitsSecond (first second : Nat) : Bool :=
  if first = 0xE0 then 0xA0 ≤ second && second < 0xC0
  else if first = 0xED then 0x80 ≤ second && second < 0xA0
  else if first = 0xF0 then 0x90 ≤ second && second < 0xC0
  else if first = 0xF4 then 0x80 ≤ second && second < 0x90
  else 0x80 ≤ second && second < 0xC0

/-- What the next bytes are: a character or an ill-formed piece, and how many bytes belong to it
after the first. -/
structure Piece where
  char : Option Char
  more : Nat

def piece (b : UInt8) (rest : Bytes) : Piece :=
  let n := b.toNat
  if n < 0x80 then ⟨some (Char.ofNat n), 0⟩
  else if n < 0xC2 ∨ 0xF5 ≤ n then ⟨none, 0⟩
  else match rest with
    | [] => ⟨none, 0⟩
    | c :: rest =>
      let m := c.toNat
      if ¬ admitsSecond n m then ⟨none, 0⟩
      else if n < 0xE0 then ⟨some (Char.ofNat (n % 32 * 64 + m % 64)), 1⟩
      else match rest with
        | [] => ⟨none, 1⟩
        | d :: rest =>
          if ¬ isContinuation d then ⟨none, 1⟩
          else if n < 0xF0 then
            ⟨some (Char.ofNat (n % 16 * 4096 + m % 64 * 64 + d.toNat % 64)), 2⟩
          else match rest with
            | [] => ⟨none, 2⟩
            | e :: _ =>
              if isContinuation e then
                ⟨some (Char.ofNat
                  (n % 8 * 262144 + m % 64 * 4096 + d.toNat % 64 * 64 + e.toNat % 64)), 3⟩
              else ⟨none, 2⟩

def chars : Bytes → List (Option Char)
  | [] => []
  | b :: rest => (piece b rest).char :: chars (rest.drop (piece b rest).more)
termination_by bytes => bytes.length
decreasing_by simp only [List.length_drop, List.length_cons]; omega

def decode? (bytes : Bytes) : Option (List Char) := (chars bytes).mapM id

def decodeLossy (bytes : Bytes) : List Char := (chars bytes).map (·.getD '\uFFFD')

end RegistryLogin.Text.Utf8
