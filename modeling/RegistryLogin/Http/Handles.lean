import RegistryLogin.Http.Network

/-! Requests of handles that share a slot, one at a time and step by step. -/

namespace RegistryLogin

open Text

inductive Handles.Phase
  | idle
  | sending
  | receiving (status : Nat) (headers : List Header)

structure Handles where
  slot : MetadataSlot
  phase : Handles.Phase
  delivered : Option Delivery

namespace Handles

inductive Move
  | store (metadata : Metadata)
  | take
  | start (sound : Bool)
  | head (present : Instant) (status : Nat) (headers : List Header)
  | finish (body : Bytes)
  | stop

def Move.continues : Move → Bool
  | .head .. | .finish _ | .stop => true
  | .store _ | .take | .start _ => false

def Move.metadata? : Move → Option Metadata
  | .head present status headers => some (Metadata.ofResponse present status headers)
  | _ => none

def step (handles : Handles) : Move → Option Handles
  | .store metadata => some { handles with slot := handles.slot.store metadata }
  | .take => some { handles with slot := handles.slot.take.2 }
  | .start sound =>
    match handles.phase with
    | .idle => some ⟨handles.slot.take.2, if sound then .sending else .idle, none⟩
    | _ => none
  | .head present status headers =>
    match handles.phase with
    | .sending =>
      some { handles with
        slot := handles.slot.store (Metadata.ofResponse present status headers)
        phase := .receiving status headers }
    | _ => none
  | .finish body =>
    match handles.phase with
    | .receiving status headers =>
      some { handles with phase := .idle, delivered := some ⟨status, headers, body⟩ }
    | _ => none
  | .stop =>
    match handles.phase with
    | .idle => none
    | _ => some { handles with phase := .idle }

def run (handles : Handles) (moves : List Move) : Option Handles := moves.foldlM step handles

def course (present : Instant) : Option Response → List Move
  | none => [.start true, .stop]
  | some ⟨status, headers, body⟩ =>
    [.start true, .head present status headers, body.elim .stop .finish]

end Handles

end RegistryLogin
