import RegistryLogin.Login.Secret
import RegistryLogin.Time.Instant
import RegistryLogin.Json.Reading

/-! Tokens of the identity provider, when they are stale, and their JSON form. -/

namespace RegistryLogin

open Json Text

namespace Instant

def parts (i : Instant) : List Int :=
  [i.year, i.ordinal, i.hour, i.minute, i.second, i.nanosecond, i.offset.hourPart,
    i.offset.minutePart, i.offset.secondPart]

def inRange (name : String) (least greatest n : Int) : Reading Unit :=
  if least ≤ n ∧ n ≤ greatest then .ok () else (Misfit.partOutOfRange name).fail

def ofParts (year ordinal hour minute second nanosecond offsetHours offsetMinutes offsetSeconds : Int) :
    Reading Instant := do
  inRange "year" (-9999) 9999 year
  inRange "ordinal" 1 (Calendar.daysIn year) ordinal
  inRange "hour" 0 23 hour
  inRange "minute" 0 59 minute
  inRange "second" 0 59 second
  inRange "nanosecond" 0 999999999 nanosecond
  inRange "offset hour" (-25) 25 offsetHours
  inRange "offset minute" (-59) 59 offsetMinutes
  inRange "offset second" (-59) 59 offsetSeconds
  match (UtcOffset.ofParts? offsetHours offsetMinutes offsetSeconds).bind
      (ofLocal? year ordinal hour minute second nanosecond) with
  | some instant => .ok instant
  | none => (Misfit.partOutOfRange "year").fail

def read : Node → Reading Instant
  | .array items tail => do
    let part (name : String) (width : Width) (n : Nat) : Reading Int :=
      requiredItem (.missingPart name) (Node.integer width) items tail n
    let year ← part "year" .i32 0
    let ordinal ← part "day of year" .u16 1
    let hour ← part "hour" .u8 2
    let minute ← part "minute" .u8 3
    let second ← part "second" .u8 4
    let nanosecond ← part "nanosecond" .u32 5
    let offsetHours ← part "offset hours" .i8 6
    let offsetMinutes ← part "offset minutes" .i8 7
    let offsetSeconds ← part "offset seconds" .i8 8
    let instant ← ofParts year ordinal hour minute second nanosecond offsetHours offsetMinutes
      offsetSeconds
    endArray 9 items tail
    .ok instant
  | node => node.mismatch "an \x60OffsetDateTime\x60"

end Instant

structure IdentityToken where
  accessToken : Secret
  expiresOn : Instant
deriving DecidableEq

namespace IdentityToken

/-- Whether the token has expired, or will have within the margin; no answer if the margin leads out
of the range of instants. -/
def isStaleAt? (token : IdentityToken) (now : Instant) (margin : Duration) : Option Bool :=
  (now.add? margin).map fun limit => decide (token.expiresOn ≤ limit)

def same (a b : IdentityToken) : Bool := a.accessToken == b.accessToken && a.expiresOn.same b.expiresOn

def outline (token : IdentityToken) : Outline :=
  .record "IdentityToken"
    [("access_token", .text Secret.mask), ("expires_on", .word token.expiresOn.toText)]

def toValue (token : IdentityToken) : Value :=
  .object [("access_token", .string token.accessToken.text),
    ("expires_on", .array (token.expiresOn.parts.map Value.ofInt))]

def toJson (token : IdentityToken) : String := token.toValue.toText

structure Draft where
  accessToken : Option String
  expiresOn : Option Instant

def Draft.visit (draft : Draft) (key : String) (node : Node) : Reading Draft :=
  if key = "access_token" then
    (fill key Node.text node draft.accessToken).map fun t => { draft with accessToken := t }
  else if key = "expires_on" then
    (fill key Instant.read node draft.expiresOn).map fun i => { draft with expiresOn := i }
  else (Reading.ofBreak node.skip).map fun _ => draft

def Draft.complete (draft : Draft) : Reading IdentityToken := do
  let accessToken ← required "access_token" draft.accessToken
  let expiresOn ← required "expires_on" draft.expiresOn
  .ok ⟨⟨accessToken⟩, expiresOn⟩

def read : Node → Reading IdentityToken
  | .object members tail => do
    let draft ← visitMembers Draft.visit ⟨none, none⟩ members
    Reading.ofBreak tail.read
    draft.complete
  | .array items tail => do
    let expected := "struct IdentityToken with 2 elements"
    let accessToken ← requiredItem (.wrongLength 0 expected) Node.text items tail 0
    let expiresOn ← requiredItem (.wrongLength 1 expected) Instant.read items tail 1
    endArray 2 items tail
    .ok ⟨⟨accessToken⟩, expiresOn⟩
  | node => node.mismatch "struct IdentityToken"

def ofJson (text : String) : Reading IdentityToken := readWhole read (Utf8.ofString text)

end IdentityToken

namespace Secret

def toJson (s : Secret) : String := Json.quoted s.text

def ofJson (text : String) : Reading Secret :=
  (readWhole Node.text (Utf8.ofString text)).map Secret.mk

end Secret

end RegistryLogin
