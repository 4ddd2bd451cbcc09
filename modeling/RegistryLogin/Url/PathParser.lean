import RegistryLogin.Url.Basic

namespace RegistryLogin.Url

def afterDot? : List Char → Option (List Char)
  | '.' :: cs => some cs
  | '%' :: '2' :: 'e' :: cs | '%' :: '2' :: 'E' :: cs => some cs
  | _ => none

def isSingleDot (segment : List Char) : Bool := afterDot? segment == some []

def isDoubleDot (segment : List Char) : Bool := (afterDot? segment).bind afterDot? == some []

def isDrive : List Char → Bool
  | [c, d] => c.isAlpha && (d == ':' || d == '|')
  | _ => false

def pieces (special : Bool) : List Char → List (List Char)
  | [] => [[]]
  | c :: cs =>
    if c = '/' ∨ (special ∧ c = '\\') then [] :: pieces special cs
    else match pieces special cs with
      | [] => [[c]]
      | piece :: rest => (c :: piece) :: rest

def shorten : List (List Char) → List (List Char)
  | [] => []
  | segment :: rest => if isDrive segment then segment :: rest else rest

def normalDrive (file : Bool) (done : List (List Char)) (segment : List Char) : List Char :=
  match file, done, segment with
  | true, [], [c, '|'] => if c.isAlpha then [c, ':'] else segment
  | _, _, _ => segment

def resolve (file : Bool) : (done : List (List Char)) → List (List Char) → List (List Char)
  | done, [] => done.reverse
  | done, [last] =>
    let segment := Percent.encode Percent.inPath last
    (if isDoubleDot segment then [] :: shorten done
      else if isSingleDot segment then [] :: done
      else normalDrive file done segment :: done).reverse
  | done, piece :: rest =>
    let segment := Percent.encode Percent.inPath piece
    if isDoubleDot segment then resolve file (shorten done) rest
    else if isSingleDot segment then resolve file done rest
    else resolve file (normalDrive file done segment :: done) rest

def withoutEmptyFront : List (List Char) → List (List Char)
  | [] :: segment :: rest => withoutEmptyFront (segment :: rest)
  | list => list

def resolvePath (scheme : List Char) (done : List (List Char)) (cs : List Char) : UrlPath :=
  let list := resolve (isFile scheme) done.reverse (pieces (isSpecial scheme) cs)
  .segments (if isFile scheme then withoutEmptyFront list else list)

def opaquePath (cs : List Char) : UrlPath := .opaquely (Percent.encode Percent.isControl cs)

end RegistryLogin.Url
