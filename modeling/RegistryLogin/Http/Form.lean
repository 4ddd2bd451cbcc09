import RegistryLogin.Url.Percent

/-! Forms as URL-encoded text: letters, digits and four marks stay, a space is a plus sign. -/

namespace RegistryLogin.Form

open RegistryLogin.Text

def staysByte (b : UInt8) : Bool :=
  let c := Char.ofNat b.toNat
  b.toNat < 128 && (c.isAlphanum || c == '*' || c == '-' || c == '.' || c == '_')

def encodeByte (b : UInt8) : List Char :=
  if staysByte b then [Char.ofNat b.toNat]
  else if b == 0x20 then ['+']
  else Url.Percent.encodeByte b

def encodeText (s : String) : List Char := (Utf8.ofString s).flatMap encodeByte

abbrev Field := String × String

def encodeField (field : Field) : List Char :=
  encodeText field.1 ++ '=' :: encodeText field.2

def encode : List Field → List Char
  | [] => []
  | [field] => encodeField field
  | field :: rest => encodeField field ++ '&' :: encode rest

def decodeText (cs : List Char) : String :=
  String.ofList (Utf8.decodeLossy (Url.Percent.decodeText (cs.map fun c => if c = '+' then ' ' else c)))

def decodeField (cs : List Char) : Field :=
  match cutAt? '=' cs with
  | some (name, value) => (decodeText name, decodeText value)
  | none => (decodeText cs, "")

def decode (cs : List Char) : List Field :=
  ((splitOn '&' cs).filter (· ≠ [])).map decodeField

end RegistryLogin.Form
