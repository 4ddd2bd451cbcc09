import RegistryLogin.Json.Token

namespace RegistryLogin.Json

inductive Tail
  | closed
  | bare (flaw : Flaw)
  | comma (flaw : Flaw)
deriving DecidableEq, Repr

inductive Node
  | null
  | bool (b : Bool)
  | number (value : Option Number)
  | string (text : Option (List Char))
  | array (items : List Node) (tail : Tail)
  | object (members : List (Option (List Char) × Node)) (tail : Tail)
  | broken (flaw : Flaw)
deriving Repr

namespace Node

abbrev Member := Option (List Char) × Node

inductive Frame
  | array (items : List Node)
  | object (members : List Member)
  | member (members : List Member) (key : Option (List Char))

inductive Place
  | value | firstItem | item | afterItem | firstKey | key | colon | afterMember

inductive Reader
  | reading (place : Place) (stack : List Frame)
  | complete (node : Node) (trailing : Bool)

def deliver (node : Node) : List Frame → Reader
  | [] => .complete node false
  | .array items :: stack => .reading .afterItem (.array (node :: items) :: stack)
  | .object members :: stack => .reading .afterMember (.object members :: stack)
  | .member members key :: stack => .reading .afterMember (.object ((key, node) :: members) :: stack)

def Frame.broken (flaw : Flaw) (node : Node) : Frame → Node
  | .array items => .array (node :: items).reverse (.bare flaw)
  | .object members => .object members.reverse (.bare flaw)
  | .member members key => .object ((key, node) :: members).reverse (.bare flaw)

def abandon (flaw : Flaw) (node : Node) (stack : List Frame) : Reader :=
  .complete (stack.foldl (Frame.broken flaw) node) false

def Frame.ending (tail : Tail) : Frame → Node
  | .array items => .array items.reverse tail
  | .object members => .object members.reverse tail
  | .member members _ => .object members.reverse tail

def finishFrame (tail : Tail) : List Frame → Reader
  | [] => .complete (.broken (.both .malformed)) false
  | frame :: stack =>
    match tail with
    | .closed => deliver (frame.ending tail) stack
    | .bare flaw | .comma flaw => abandon flaw (frame.ending tail) stack

def flawOf : Token → Flaw
  | .finish => .both .ended
  | .brokenText flaw | .brokenWord flaw => flaw
  | _ => .both .malformed

def gapOf : Token → Flaw
  | .finish => .both .ended
  | _ => .both .malformed

def startValue (token : Token) (stack : List Frame) : Reader :=
  match token with
  | .null => deliver .null stack
  | .bool b => deliver (.bool b) stack
  | .number value => deliver (.number value) stack
  | .string text => deliver (.string text) stack
  | .openArray => .reading .firstItem (.array [] :: stack)
  | .openObject => .reading .firstKey (.object [] :: stack)
  | token => abandon (flawOf token) (.broken (flawOf token)) stack

def startMember (token : Token) (tail : Flaw → Tail) (stack : List Frame) : Reader :=
  match token, stack with
  | .string key, .object members :: stack => .reading .colon (.member members key :: stack)
  | .brokenText flaw, stack => finishFrame (tail flaw) stack
  | token, stack => finishFrame (tail (gapOf token)) stack

def step (reader : Reader) (token : Token) : Reader :=
  match reader with
  | .complete node trailing => .complete node (trailing || token != .finish)
  | .reading place stack =>
    match place, token with
    | .firstItem, .closeArray | .afterItem, .closeArray => finishFrame .closed stack
    | .firstKey, .closeObject | .afterMember, .closeObject => finishFrame .closed stack
    | .afterItem, .comma => .reading .item stack
    | .afterMember, .comma => .reading .key stack
    | .colon, .colon => .reading .value stack
    | .firstItem, .finish | .afterItem, token | .afterMember, token =>
      finishFrame (.bare (gapOf token)) stack
    | .item, .closeArray => finishFrame (.comma (.both .malformed)) stack
    | .item, .finish => finishFrame (.comma (.both .ended)) stack
    | .value, token | .item, token | .firstItem, token => startValue token stack
    | .firstKey, token => startMember token .bare stack
    | .key, token => startMember token .comma stack
    | .colon, token => abandon (gapOf token) (.broken (gapOf token)) stack

def read (tokens : List Token) : Reader := tokens.foldl step (.reading .value [])

end Node

structure Document where
  node : Node
  trailing : Bool

def Document.ofBytes (bytes : Text.Bytes) : Document :=
  match Node.read (tokens bytes) with
  | .complete node trailing => ⟨node, trailing⟩
  | .reading _ _ => ⟨.broken (.both .ended), false⟩

end RegistryLogin.Json
