import RegistryLogin.Url.HostParser
import RegistryLogin.Url.PathParser

/-! Reading URLs, absolute ones and ones relative to a base. -/

namespace RegistryLogin.Url

open RegistryLogin.Text

def isLineBreak (c : Char) : Bool := c == '\t' || c == '\n' || c == '\r'

def isPadding (c : Char) : Bool := c.toNat ≤ 0x20

def tidy (cs : List Char) : List Char :=
  (((cs.dropWhile isPadding).reverse.dropWhile isPadding).reverse).filter (!isLineBreak ·)

def isSchemeChar (c : Char) : Bool := c.isAlphanum || c == '+' || c == '-' || c == '.'

def scheme? (cs : List Char) : Option (List Char × List Char) := do
  let first ← cs.head?
  guard first.isAlpha
  match cs.dropWhile isSchemeChar with
  | ':' :: rest => some ((cs.takeWhile isSchemeChar).map Char.toLower, rest)
  | _ => none

def isSlash (c : Char) : Bool := c == '/' || c == '\\'

def endsPath (c : Char) : Bool := c == '?' || c == '#'

def endsAuthority (special : Bool) (c : Char) : Bool :=
  c == '/' || endsPath c || (special && c == '\\')

def ending (scheme : List Char) (cs : List Char) : Option (List Char) × Option (List Char) :=
  let needed := if isSpecial scheme then Percent.inSpecialQuery else Percent.inQuery
  let fragment (cs : List Char) : Option (List Char) :=
    match cs with
    | [] => none
    | _ :: cs => some (Percent.encode Percent.inFragment cs)
  match cs with
  | '?' :: cs =>
    (some (Percent.encode needed (cs.takeWhile (· != '#'))), fragment (cs.dropWhile (· != '#')))
  | cs => (none, fragment cs)

def withEnding (url : Url) (cs : List Char) : Url :=
  let (query, fragment) := ending url.scheme cs
  { url with query := query, fragment := fragment }

def pathText (cs : List Char) : List Char := cs.takeWhile (!endsPath ·)

def afterPath (cs : List Char) : List Char := cs.dropWhile (!endsPath ·)

def cutAtLast? : List Char → Option (List Char × List Char)
  | [] => none
  | c :: cs =>
    match cutAtLast? cs with
    | some (before, after) => some (c :: before, after)
    | none => if c = '@' then some ([], cs) else none

def userinfo (cs : List Char) : List Char × List Char :=
  match cutAt? ':' cs with
  | some (name, password) =>
    (Percent.encode Percent.inUserinfo name, Percent.encode Percent.inUserinfo password)
  | none => (Percent.encode Percent.inUserinfo cs, [])

def hostLength : (inside : Bool) → List Char → Nat
  | _, [] => 0
  | inside, c :: cs =>
    if c = ':' ∧ ¬ inside then 0
    else hostLength (if c = '[' then true else if c = ']' then false else inside) cs + 1

def port (scheme : List Char) (cs : List Char) : Except Error (Option Nat × List Char) :=
  let digits := cs.takeWhile Char.isDigit
  let rest := cs.dropWhile Char.isDigit
  let number := Ipv4.value 10 digits
  if 65535 < number then .error .invalidPort
  else if rest.head?.any (!isSlash ·) then .error .invalidPort
  else if digits.isEmpty ∨ defaultPort? scheme = some number then .ok (none, rest)
  else .ok (some number, rest)

def location (scheme : List Char) (username password cs : List Char) :
    Except Error (Authority × List Char) := do
  let length := hostLength false cs
  let hostText := cs.take length
  if isSpecial scheme ∧ hostText = [] then .error .emptyHost
  else
    let host ← Host.parse (isSpecial scheme) hostText
    match cs.drop length with
    | [] =>
      if host = .none ∧ (username ≠ [] ∨ password ≠ []) then .error .emptyHost
      else .ok (⟨username, password, host, none⟩, [])
    | _ :: portText =>
      if host = .none then .error .emptyHost
      else
        let (port, rest) ← port scheme portText
        .ok (⟨username, password, host, port⟩, rest)

def authorityPath (scheme : List Char) (cs : List Char) : UrlPath :=
  match cs with
  | [] => if isSpecial scheme then .segments [[]] else .segments []
  | c :: cs =>
    if c = '/' ∨ (isSpecial scheme ∧ c = '\\') then resolvePath scheme [] cs
    else resolvePath scheme [] (c :: cs)

def afterSlashes (scheme : List Char) (cs : List Char) : Except Error Url := do
  let text := cs.takeWhile (!endsAuthority (isSpecial scheme) ·)
  let rest := cs.drop text.length
  let (authority, left) ←
    match cutAtLast? text with
    | none => location scheme [] [] text
    | some ([], after) =>
      if after = [] ∧ rest ≠ [] then .error .emptyHost else location scheme [] [] after
    | some (before, after) =>
      location scheme (userinfo before).1 (userinfo before).2 after
  let rest := left ++ rest
  .ok (withEnding ⟨scheme, some authority, authorityPath scheme (pathText rest), none, none⟩
    (afterPath rest))

def directory : UrlPath → List (List Char)
  | .segments list => list.dropLast
  | .opaquely _ => []

def withoutFragment (base : Url) : Url := { base with fragment := none }

def onSamePath (base : Url) (cs : List Char) : Url :=
  match cs with
  | [] => withoutFragment base
  | '#' :: _ => { base with fragment := (ending base.scheme cs).2 }
  | _ => withEnding base cs

def relative (base : Url) (cs : List Char) : Except Error Url :=
  match cs with
  | [] | '?' :: _ | '#' :: _ => .ok (onSamePath base cs)
  | c :: rest =>
    if isSlash c then
      match rest with
      | d :: more =>
        if c = '/' ∧ d = '/' then afterSlashes base.scheme more
        else if isSlash d then afterSlashes base.scheme (more.dropWhile isSlash)
        else
          .ok (withEnding { base with path := resolvePath base.scheme [] (pathText rest) }
            (afterPath rest))
      | [] => .ok (withEnding { base with path := .segments [[]] } [])
    else
      .ok (withEnding { base with path := resolvePath base.scheme (directory base.path) (pathText cs) }
        (afterPath cs))

def fileScheme : List Char := ['f', 'i', 'l', 'e']

def fileUrl (host : Host) (path : UrlPath) : Url :=
  ⟨fileScheme, some ⟨[], [], host, none⟩, path, none, none⟩

def startsWithDrive (cs : List Char) : Bool :=
  isDrive (cs.take 2) && (cs.drop 2).head?.all fun c => isSlash c || endsPath c

def localPath (cs : List Char) : UrlPath :=
  match cs with
  | c :: rest => if isSlash c then resolvePath fileScheme [] rest else resolvePath fileScheme [] cs
  | [] => .segments [[]]

def fileHost (host : Host) : UrlPath → Host
  | .segments (segment :: _) => if isDrive segment then .none else host
  | _ => host

def fileAfterSlashes (cs : List Char) : Except Error Url := do
  let text := cs.takeWhile fun c => !(isSlash c || endsPath c)
  let rest := cs.drop text.length
  if text = [] ∨ isDrive text then
    .ok (withEnding (fileUrl .none (localPath (pathText cs))) (afterPath cs))
  else
    let host ← Host.parse true text
    let host := if host = .name ['l', 'o', 'c', 'a', 'l', 'h', 'o', 's', 't'] then .none else host
    let path := localPath (pathText rest)
    .ok (withEnding (fileUrl (fileHost host path) path) (afterPath rest))

def fileRooted (base : Option Url) (cs : List Char) : Url :=
  let host := (base.bind (·.authority)).elim .none (·.host)
  let first := match base.map (·.path) with
    | some (.segments (segment :: _)) => segment
    | _ => []
  withEnding (
    if startsWithDrive cs then fileUrl .none (resolvePath fileScheme [] (pathText cs))
    else if isDrive first then fileUrl .none (resolvePath fileScheme [first] (pathText cs))
    else fileUrl host (resolvePath fileScheme [] (pathText cs))) (afterPath cs)

def file (base : Option Url) (cs : List Char) : Except Error Url :=
  match cs with
  | c :: rest =>
    if isSlash c then
      match rest with
      | d :: more => if isSlash d then fileAfterSlashes more else .ok (fileRooted base rest)
      | [] => .ok (fileRooted base [])
    else
      match base with
      | some base =>
        if endsPath c then .ok (onSamePath base cs)
        else if startsWithDrive cs then
          .ok (withEnding (fileUrl .none (resolvePath fileScheme [] (pathText cs))) (afterPath cs))
        else relative base cs
      | none =>
        .ok (withEnding (fileUrl .none (resolvePath fileScheme [] (pathText cs))) (afterPath cs))
  | [] =>
    match base with
    | some base => .ok (withoutFragment base)
    | none => .ok (fileUrl .none (.segments [[]]))

def general (scheme : List Char) (cs : List Char) : Except Error Url :=
  match cs with
  | '/' :: '/' :: rest => afterSlashes scheme rest
  | '/' :: rest =>
    .ok (withEnding ⟨scheme, none, resolvePath scheme [] (pathText rest), none, none⟩
      (afterPath rest))
  | cs => .ok (withEnding ⟨scheme, none, opaquePath (pathText cs), none, none⟩ (afterPath cs))

def absolute (base : Option Url) (scheme : List Char) (cs : List Char) : Except Error Url :=
  let same := base.filter (·.scheme == scheme)
  if isFile scheme then file same cs
  else if isSpecial scheme then
    match same with
    | some base =>
      if (cs.takeWhile isSlash).length < 2 then relative base cs
      else afterSlashes scheme (cs.dropWhile isSlash)
    | none => afterSlashes scheme (cs.dropWhile isSlash)
  else general scheme cs

def withoutScheme (base : Option Url) (cs : List Char) : Except Error Url :=
  match base with
  | none => .error .relativeWithoutBase
  | some base =>
    if cs.head? = some '#' then .ok (onSamePath base cs)
    else if base.path.isOpaque then .error .relativeToOpaque
    else if isFile base.scheme then file (some base) cs
    else relative base cs

def read (base : Option Url) (text : List Char) : Except Error Url :=
  match scheme? (tidy text) with
  | some (scheme, rest) => absolute base scheme rest
  | none => withoutScheme base (tidy text)

def parse (text : String) : Except Error Url := read none text.toList

def join (base : Url) (reference : String) : Except Error Url := read (some base) reference.toList

end RegistryLogin.Url
