import RegistryLogin.Text.Utf8
import RegistryLogin.Text.Category
import RegistryLogin.Time.MailDate

/-! What an answer says about itself: its status, and after what time another request makes sense. -/

namespace RegistryLogin

open Text

structure Header where
  name : Bytes
  value : Bytes
deriving DecidableEq

namespace Header

def lower (b : UInt8) : UInt8 := if 0x41 ≤ b.toNat ∧ b.toNat ≤ 0x5A then b + 32 else b

def hasName (name : String) (header : Header) : Bool :=
  header.name.map lower == (Utf8.ofString name).map lower

def first? (name : String) (headers : List Header) : Option Bytes :=
  (headers.find? (hasName name)).map (·.value)

def text? (value : Bytes) : Option (List Char) :=
  if value.all fun b => b == 0x09 || (0x20 ≤ b.toNat && b.toNat < 0x7F) then
    some (value.map fun b => Char.ofNat b.toNat)
  else none

end Header

structure Metadata where
  status : Option Nat
  retryAfter : Option Duration
deriving DecidableEq

namespace RetryAfter

def seconds? (cs : List Char) : Option Nat :=
  let digits := match cs with
    | '+' :: rest => rest
    | _ => cs
  if digits.isEmpty ∨ ¬ digits.all Char.isDigit then none
  else
    let n := MailDate.digitsValue digits
    if n < 4294967296 then some n else none

def until? (now : Instant) (cs : List Char) : Option Duration := do
  let date ← MailDate.parse? cs
  if now.ticks < date.ticks then Duration.ofTicks? (date.ticks - now.ticks) else none

def ofText? (now : Instant) (cs : List Char) : Option Duration :=
  match seconds? cs with
  | some n => Duration.ofSeconds? n
  | none => until? now cs

def ofHeaders? (now : Instant) (headers : List Header) : Option Duration := do
  let value ← Header.first? "retry-after" headers
  let text ← Header.text? value
  ofText? now (trim text)

end RetryAfter

def Metadata.ofResponse (now : Instant) (status : Nat) (headers : List Header) : Metadata :=
  ⟨some status, RetryAfter.ofHeaders? now headers⟩

structure MetadataSlot where
  content : Option Metadata

namespace MetadataSlot

def empty : MetadataSlot := ⟨none⟩

def store (_ : MetadataSlot) (metadata : Metadata) : MetadataSlot := ⟨some metadata⟩

def take (slot : MetadataSlot) : Option Metadata × MetadataSlot := (slot.content, empty)

end MetadataSlot

end RegistryLogin
