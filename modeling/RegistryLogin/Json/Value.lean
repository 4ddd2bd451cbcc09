import RegistryLogin.Json.Node

/-! JSON values: texts that read without a flaw, and their compact written form. -/

namespace RegistryLogin.Json

inductive Value
  | null
  | bool (b : Bool)
  | number (n : Number)
  | string (s : String)
  | array (items : List Value)
  /-- Members in the order of the text; of equal keys the last counts. -/
  | object (members : List (String × Value))

namespace Node

mutual

def value? : Node → Option Value
  | .null => some .null
  | .bool b => some (.bool b)
  | .number n => n.map .number
  | .string text => text.map fun s => .string (String.ofList s)
  | .array items .closed => (values? items).map .array
  | .object members .closed => (memberValues? members).map .object
  | _ => none

def values? : List Node → Option (List Value)
  | [] => some []
  | node :: rest => do
    let value ← node.value?
    let values ← values? rest
    some (value :: values)

def memberValues? : List (Option (List Char) × Node) → Option (List (String × Value))
  | [] => some []
  | (key, node) :: rest => do
    let key ← key
    let value ← node.value?
    let members ← memberValues? rest
    some ((String.ofList key, value) :: members)

end

end Node

def escapeChar (c : Char) : List Char :=
  if c = '"' then ['\\', '"']
  else if c = '\\' then ['\\', '\\']
  else if c.toNat = 0x08 then ['\\', 'b']
  else if c.toNat = 0x09 then ['\\', 't']
  else if c.toNat = 0x0A then ['\\', 'n']
  else if c.toNat = 0x0C then ['\\', 'f']
  else if c.toNat = 0x0D then ['\\', 'r']
  else if c.toNat < 0x20 then
    ['\\', 'u', '0', '0', Text.lowerHexDigit (c.toNat / 16), Text.lowerHexDigit (c.toNat % 16)]
  else [c]

def quoted (s : String) : String := String.ofList (['"'] ++ s.toList.flatMap escapeChar ++ ['"'])

def Number.toText : Number → String
  | .natural n => toString n
  | .negative n => "-" ++ toString n
  | .float x => Shortest.text x

namespace Value

def ofBytes? (bytes : Text.Bytes) : Option Value :=
  let document := Document.ofBytes bytes
  if document.trailing then none else document.node.value?

def ofInt (n : Int) : Value := .number (if n < 0 then .negative n.natAbs else .natural n.natAbs)

def member? (key : String) : Value → Option Value
  | .object members => (members.reverse.find? (·.1 == key)).map (·.2)
  | _ => none

mutual

def toText : Value → String
  | .null => "null"
  | .bool b => if b then "true" else "false"
  | .number n => n.toText
  | .string s => quoted s
  | .array [] => "[]"
  | .array (item :: items) => "[" ++ item.toText ++ itemsText items ++ "]"
  | .object [] => "\x7b\x7d"
  | .object ((key, value) :: members) =>
    "\x7b" ++ quoted key ++ ":" ++ value.toText ++ membersText members ++ "\x7d"

def itemsText : List Value → String
  | [] => ""
  | item :: items => "," ++ item.toText ++ itemsText items

def membersText : List (String × Value) → String
  | [] => ""
  | (key, value) :: members => "," ++ quoted key ++ ":" ++ value.toText ++ membersText members

end

end Value

end RegistryLogin.Json
