import RegistryLogin.Json.Value
import RegistryLogin.Text.Outline

namespace RegistryLogin.Json

inductive Shape
  | null
  | bool (b : Bool)
  | number (n : Number)
  | text (s : String)
  | sequence
  | map
deriving DecidableEq

def Shape.toText : Shape → String
  | .null => "null"
  | .bool b => "boolean \x60" ++ (if b then "true" else "false") ++ "\x60"
  | .number (.float x) => "floating point \x60" ++ Shortest.text x ++ "\x60"
  | .number n => "integer \x60" ++ n.toText ++ "\x60"
  | .text s => "string " ++ Text.quoted s
  | .sequence => "sequence"
  | .map => "map"

inductive Misfit
  | wrongType (found : Shape) (expected : String)
  | wrongValue (found : Shape) (expected : String)
  | wrongLength (found : Nat) (expected : String)
  | missingField (name : String)
  | duplicateField (name : String)
  | missingPart (name : String)
  | partOutOfRange (name : String)
deriving DecidableEq

def Misfit.message : Misfit → String
  | .wrongType found expected => "invalid type: " ++ found.toText ++ ", expected " ++ expected
  | .wrongValue found expected => "invalid value: " ++ found.toText ++ ", expected " ++ expected
  | .wrongLength found expected =>
    "invalid length " ++ toString found ++ ", expected " ++ expected
  | .missingField name => "missing field \x60" ++ name ++ "\x60"
  | .duplicateField name => "duplicate field \x60" ++ name ++ "\x60"
  | .missingPart name => "expected " ++ name
  | .partOutOfRange name => "invalid " ++ name ++ ", expected an in-range value"

inductive Path
  | whole
  | field (name : String)
  | item (n : Nat)
deriving DecidableEq

def Path.toText : Path → String
  | .whole => "."
  | .field name => name
  | .item n => "[" ++ toString n ++ "]"

inductive Fault
  | broken (b : Break)
  | unfit (misfit : Misfit) (path : Path)
deriving DecidableEq

abbrev Reading (α : Type) := Except Fault α

def Misfit.fail {α : Type} (misfit : Misfit) : Reading α := .error (.unfit misfit .whole)

def Break.fail {α : Type} (b : Break) : Reading α := .error (.broken b)

def Reading.within {α : Type} (path : Path) : Reading α → Reading α
  | .error (.unfit misfit _) => .error (.unfit misfit path)
  | reading => reading

namespace Value

def shape : Value → Shape
  | .null => .null
  | .bool b => .bool b
  | .number n => .number n
  | .string s => .text s
  | .array _ => .sequence
  | .object _ => .map

end Value

namespace Node

def mismatch {α : Type} (expected : String) : Node → Reading α
  | .null => (Misfit.wrongType .null expected).fail
  | .bool b => (Misfit.wrongType (.bool b) expected).fail
  | .number (some n) => (Misfit.wrongType (.number n) expected).fail
  | .string (some s) => (Misfit.wrongType (.text (String.ofList s)) expected).fail
  | .array _ _ => (Misfit.wrongType .sequence expected).fail
  | .object _ _ => (Misfit.wrongType .map expected).fail
  | .number none | .string none => Break.malformed.fail
  | .broken flaw => flaw.reading.fail

def text : Node → Reading String
  | .string (some s) => .ok (String.ofList s)
  | node => node.mismatch "a string"

def optional {α : Type} (read : Node → Reading α) : Node → Reading (Option α)
  | .null => .ok none
  | node => (read node).map some

end Node

structure Width where
  name : String
  least : Int
  greatest : Int

namespace Width

def u8 : Width := ⟨"u8", 0, 255⟩
def u16 : Width := ⟨"u16", 0, 65535⟩
def u32 : Width := ⟨"u32", 0, 4294967295⟩
def u64 : Width := ⟨"u64", 0, 18446744073709551615⟩
def i8 : Width := ⟨"i8", -128, 127⟩
def i32 : Width := ⟨"i32", -2147483648, 2147483647⟩

def fit (width : Width) (n : Int) (found : Number) : Reading Int :=
  if width.least ≤ n ∧ n ≤ width.greatest then .ok n
  else (Misfit.wrongValue (.number found) width.name).fail

end Width

namespace Node

def integer (width : Width) : Node → Reading Int
  | .number (some (.natural n)) => width.fit n (.natural n)
  | .number (some (.negative n)) => width.fit (-n) (.negative n)
  | node => node.mismatch width.name

end Node

def Tail.skip : Tail → Except Break Unit
  | .closed => .ok ()
  | .bare flaw | .comma flaw => .error flaw.skipping

def Tail.read : Tail → Except Break Unit
  | .closed => .ok ()
  | .bare flaw | .comma flaw => .error flaw.reading

namespace Node

mutual

def skip : Node → Except Break Unit
  | .array items tail => do skipAll items; tail.skip
  | .object members tail => do skipMembers members; tail.skip
  | .broken flaw => .error flaw.skipping
  | _ => .ok ()

def skipAll : List Node → Except Break Unit
  | [] => .ok ()
  | node :: rest => do node.skip; skipAll rest

def skipMembers : List (Option (List Char) × Node) → Except Break Unit
  | [] => .ok ()
  | (_, node) :: rest => do node.skip; skipMembers rest

end

mutual

def readAny (depth : Nat) : Node → Except Break Unit
  | .number none | .string none => .error .malformed
  | .broken flaw => .error flaw.reading
  | .array items tail =>
    if depth ≤ 1 then .error .malformed else do readAll (depth - 1) items; tail.read
  | .object members tail =>
    if depth ≤ 1 then .error .malformed else do readMembers (depth - 1) members; tail.read
  | _ => .ok ()

def readAll (depth : Nat) : List Node → Except Break Unit
  | [] => .ok ()
  | node :: rest => do readAny depth node; readAll depth rest

def readMembers (depth : Nat) : List (Option (List Char) × Node) → Except Break Unit
  | [] => .ok ()
  | (none, _) :: _ => .error .malformed
  | (some _, node) :: rest => do readAny depth node; readMembers depth rest

end

end Node

def Reading.ofBreak {α : Type} : Except Break α → Reading α
  | .ok a => .ok a
  | .error b => b.fail

def visitMembers {σ : Type} (visit : σ → String → Node → Reading σ) :
    σ → List (Option (List Char) × Node) → Reading σ
  | s, [] => .ok s
  | _, (none, _) :: _ => Break.malformed.fail
  | s, (some key, node) :: rest =>
    match visit s (String.ofList key) node with
    | .ok s => visitMembers visit s rest
    | .error fault => .error fault

def visitObject {σ : Type} (visit : σ → String → Node → Reading σ) (start : σ)
    (members : List (Option (List Char) × Node)) (tail : Tail) : Reading σ :=
  match visitMembers visit start members with
  | .ok s => (Reading.ofBreak tail.read).map fun _ => s
  | .error fault => .error fault

def fill {α : Type} (name : String) (read : Node → Reading α) (node : Node) :
    Option α → Reading (Option α)
  | some _ => (Misfit.duplicateField name).fail
  | none => (Reading.within (.field name) (read node)).map some

def required {α : Type} (name : String) : Option α → Reading α
  | some a => .ok a
  | none => (Misfit.missingField name).fail

def itemAt? (items : List Node) (tail : Tail) (n : Nat) : Reading (Option Node) :=
  match items[n]? with
  | some node => .ok (some node)
  | none => (Reading.ofBreak tail.read).map fun _ => none

def endArray (count : Nat) (items : List Node) : Tail → Reading Unit
  | .closed => if count < items.length then Break.malformed.fail else .ok ()
  | .bare flaw => if count < items.length then Break.malformed.fail else flaw.reading.fail
  | .comma _ => Break.malformed.fail

def requiredItem {α : Type} (expected : Misfit) (read : Node → Reading α) (items : List Node)
    (tail : Tail) (n : Nat) : Reading α := do
  match ← itemAt? items tail n with
  | some node => Reading.within (.item n) (read node)
  | none => expected.fail

def optionalItem {α : Type} (otherwise : α) (read : Node → Reading α) (items : List Node)
    (tail : Tail) (n : Nat) : Reading α := do
  match ← itemAt? items tail n with
  | some node => Reading.within (.item n) (read node)
  | none => .ok otherwise

/-- Reads the first value of a text and ignores what follows. -/
def readFirst {α : Type} (read : Node → Reading α) (bytes : Text.Bytes) : Reading α :=
  read (Document.ofBytes bytes).node

def readWhole {α : Type} (read : Node → Reading α) (bytes : Text.Bytes) : Reading α := do
  let document := Document.ofBytes bytes
  let a ← read document.node
  if document.trailing then Break.malformed.fail else .ok a

end RegistryLogin.Json
