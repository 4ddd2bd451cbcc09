import RegistryLogin.Provider.Calls
import RegistryLogin.Time.Clock

/-! Sessions: the calls of one provider, polled and given up in any order. -/

namespace RegistryLogin

structure Call where
  errand : Errand
  phase : Phase

def Call.isDone (call : Call) : Bool :=
  match call.phase with
  | .done _ => true
  | _ => false

/-- Calls are known by their position. -/
structure Session (World : Type) where
  shared : Shared World
  calls : List Call

inductive Move
  | start (errand : Errand) (favoured : Bool)
  | poll (call : Nat) (favoured : Bool)
  | cancel (call : Nat)
  | turn (clock : ClockMove)

namespace Session

variable {World Client : Type}

def initial (shared : Shared World) : Session World := ⟨shared, []⟩

def onCall (f : Phase → Shared World → Shared World × Phase) (id : Nat) (session : Session World) :
    Session World :=
  match session.calls[id]? with
  | none => session
  | some call =>
    let (shared, phase) := f call.phase session.shared
    ⟨shared, session.calls.set id { call with phase := phase }⟩

def move (p : Provider World Client) (session : Session World) : Move → Session World
  | .start errand favoured =>
    let (shared, phase) := p.start session.calls.length errand favoured session.shared
    ⟨shared, session.calls ++ [⟨errand, phase⟩]⟩
  | .poll id favoured => session.onCall (p.poll id · favoured) id
  | .cancel id => session.onCall (Provider.cancel id) id
  | .turn clock =>
    { session with shared := { session.shared with clock := clock.next session.shared.clock } }

def run (p : Provider World Client) (session : Session World) (moves : List Move) :
    Session World :=
  moves.foldl (move p) session

def isNext (session : Session World) (id : Nat) : Bool := session.shared.guard.isTurnOf id

def isRunning (session : Session World) (id : Nat) : Bool :=
  session.calls[id]?.any (!·.isDone)

def pollAll (p : Provider World Client) (ids : List Nat) (session : Session World) :
    Session World :=
  ids.foldl (fun session id =>
    if session.isRunning id then session.move p (.poll id (session.isNext id)) else session) session

def rounds (p : Provider World Client) (ids : List Nat) : Nat → Session World → Session World
  | 0, session => session
  | n + 1, session =>
    if ids.any session.isRunning then rounds p ids n (session.pollAll p ids) else session

/-- Starts the calls in a first round, polls them in further ones, and gives up those that are not
done after `limit` rounds. -/
def together (p : Provider World Client) (errands : List Errand) (limit : Nat)
    (session : Session World) : Session World :=
  match limit with
  | 0 => session
  | further + 1 =>
    let ids := (List.range errands.length).map (session.calls.length + ·)
    let session := errands.foldl (fun session errand =>
      session.move p (.start errand (session.isNext session.calls.length))) session
    let session := session.rounds p ids further
    ids.foldl (fun session id => session.move p (.cancel id)) session

end Session

end RegistryLogin
