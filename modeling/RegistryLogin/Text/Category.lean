import RegistryLogin.Text.Hex
import RegistryLogin.Text.CategoryTable

namespace RegistryLogin.Text

inductive Category
  | letter | letterNumber | mark | digit | connector | space | hidden | other
deriving DecidableEq, Repr

def Category.ofCode (code : List Char) : Category :=
  match code with
  | 'L' :: _ => .letter
  | ['N', 'l'] => .letterNumber
  | ['N', 'd'] => .digit
  | 'M' :: _ => .mark
  | ['P', 'c'] => .connector
  | ['Z', 's'] => .space
  | 'Z' :: _ | 'C' :: _ => .hidden
  | _ => .other

def generalCategories : List (Run (List Char)) :=
  (Run.entries categoryRuns).map fun entry => ⟨entry.take 2, hexNumber (entry.drop 2)⟩

def categoryCode (c : Char) : List Char :=
  (Run.label? generalCategories c.toNat).getD ['C', 'n']

def category (c : Char) : Category := .ofCode (categoryCode c)

def isMark (c : Char) : Bool := 0x300 ≤ c.toNat && category c = .mark

def isEnclosedLetter (c : Char) : Bool :=
  [(0x24B6, 0x24E9), (0x1F130, 0x1F149), (0x1F150, 0x1F169), (0x1F170, 0x1F189)].any
    fun (first, last) => first ≤ c.toNat && c.toNat ≤ last

def isWord (c : Char) : Bool :=
  if c.toNat < 128 then c.isAlphanum || c == '_'
  else c.toNat == 0x200C || c.toNat == 0x200D || isEnclosedLetter c ||
    match category c with
    | .letter | .letterNumber | .mark | .digit | .connector => true
    | _ => false

def isBlank (c : Char) : Bool :=
  let n := c.toNat
  (0x09 ≤ n && n ≤ 0x0D) || n == 0x20 || n == 0x85 || n == 0xA0 || n == 0x1680 ||
    (0x2000 ≤ n && n ≤ 0x200A) || n == 0x2028 || n == 0x2029 || n == 0x202F || n == 0x205F ||
    n == 0x3000

def trim (cs : List Char) : List Char :=
  ((cs.dropWhile isBlank).reverse.dropWhile isBlank).reverse

def extendsPrevious (c : Char) : Bool :=
  let n := c.toNat
  0x300 ≤ n && (categoryCode c == ['M', 'n'] || categoryCode c == ['M', 'e'] ||
    [0x9BE, 0x9D7, 0xB3E, 0xB57, 0xBBE, 0xBD7, 0xCC2, 0xCD5, 0xCD6, 0xD3E, 0xD57, 0xDCF, 0xDDF,
      0x1B35, 0x200C, 0x302E, 0x302F, 0xFF9E, 0xFF9F, 0x1133E, 0x11357, 0x114B0, 0x114BD, 0x115AF,
      0x11930, 0x1D165].contains n ||
    (0x1D16E ≤ n && n ≤ 0x1D172) || (0xE0020 ≤ n && n ≤ 0xE007F))

def isPrintable (c : Char) : Bool :=
  let n := c.toNat
  if n < 0x7F then 0x20 ≤ n
  else !extendsPrevious c && match category c with
    | .space | .hidden => false
    | _ => true

end RegistryLogin.Text
