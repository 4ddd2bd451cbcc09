import RegistryLogin.Text.Utf8

namespace RegistryLogin.Url.Percent

open RegistryLogin.Text

def encodeByte (b : UInt8) : List Char :=
  ['%', upperHexDigit (b.toNat / 16), upperHexDigit (b.toNat % 16)]

def encodeChar (c : Char) : List Char := (String.utf8EncodeChar c).flatMap encodeByte

def encode (needed : Char → Bool) (cs : List Char) : List Char :=
  cs.flatMap fun c => if 0x80 ≤ c.toNat || needed c then encodeChar c else [c]

def decode : Bytes → Bytes
  | [] => []
  | b :: rest =>
    match b == 0x25, rest with
    | true, h :: l :: more =>
      match hexValue? (Char.ofNat h.toNat), hexValue? (Char.ofNat l.toNat) with
      | some high, some low => UInt8.ofNat (16 * high + low) :: decode more
      | _, _ => b :: decode (h :: l :: more)
    | _, rest => b :: decode rest

def decodeText (cs : List Char) : Bytes := decode (Utf8.encode cs)

def isControl (c : Char) : Bool := c.toNat < 0x20 || c.toNat == 0x7F

def inFragment (c : Char) : Bool := isControl c || [' ', '"', '<', '>', '\x60'].contains c

def inPath (c : Char) : Bool := inFragment c || ['#', '?', '\x7b', '\x7d'].contains c

def inUserinfo (c : Char) : Bool :=
  inPath c || ['/', ':', ';', '=', '@', '[', '\\', ']', '^', '|'].contains c

def inQuery (c : Char) : Bool := isControl c || [' ', '"', '#', '<', '>'].contains c

def inSpecialQuery (c : Char) : Bool := inQuery c || c == '\x27'

end RegistryLogin.Url.Percent
