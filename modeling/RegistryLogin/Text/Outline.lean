import RegistryLogin.Text.Category

namespace RegistryLogin.Text

def escapeChar (c : Char) : List Char :=
  if c = '"' then ['\\', '"']
  else if c = '\\' then ['\\', '\\']
  else if c = '\n' then ['\\', 'n']
  else if c = '\r' then ['\\', 'r']
  else if c = '\t' then ['\\', 't']
  else if c.toNat = 0 then ['\\', '0']
  else if isPrintable c then [c]
  else ['\\', 'u', '\x7b'] ++ lowerHex c.toNat ++ ['\x7d']

def quoted (s : String) : String := String.ofList (['"'] ++ s.toList.flatMap escapeChar ++ ['"'])

inductive Outline
  | text (s : String)
  | word (s : String)
  | record (name : String) (fields : List (String × Outline))
  | wrapped (name : String) (content : Outline)

namespace Outline

def ofOption {α : Type} (f : α → Outline) : Option α → Outline
  | none => .word "None"
  | some a => .wrapped "Some" (f a)

def joinWith (separator : String) : List String → String
  | [] => ""
  | [s] => s
  | s :: rest => s ++ separator ++ joinWith separator rest

mutual

def line : Outline → String
  | .text s => quoted s
  | .word s => s
  | .wrapped name content => name ++ "(" ++ content.line ++ ")"
  | .record name fields =>
    name ++ " \x7b " ++ joinWith ", " (lineFields fields) ++ " \x7d"

def lineFields : List (String × Outline) → List String
  | [] => []
  | (name, value) :: rest => (name ++ ": " ++ value.line) :: lineFields rest

end

def indent (depth : Nat) : String := String.ofList (List.replicate (4 * depth) ' ')

mutual

def indented (depth : Nat) : Outline → String
  | .text s => quoted s
  | .word s => s
  | .wrapped name content =>
    name ++ "(\n" ++ indent (depth + 1) ++ content.indented (depth + 1) ++ ",\n" ++ indent depth ++ ")"
  | .record name fields =>
    name ++ " \x7b\n" ++ indentedFields (depth + 1) fields ++ indent depth ++ "\x7d"

def indentedFields (depth : Nat) : List (String × Outline) → String
  | [] => ""
  | (name, value) :: rest =>
    indent depth ++ name ++ ": " ++ value.indented depth ++ ",\n" ++ indentedFields depth rest

end

def spread (o : Outline) : String := o.indented 0

end Outline

end RegistryLogin.Text
