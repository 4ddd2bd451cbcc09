import RegistryLogin.Provider.Production
import RegistryLogin.Provider.Session

/-! Rehearsals: a provider with collaborators that answer from a script. -/

namespace RegistryLogin

inductive RegistryLine
  | noClient (cause : Cause)
  | client (answer : Delayed (Except Cause (Option Secret)))

structure Script where
  identity : List (Delayed (Except Cause Issued))
  registry : List RegistryLine
  around : Surroundings

inductive RehearsalClient
  | scripted (answer : Delayed (Except Cause (Option Secret)))
  | genuine (client : RegistryClient)

inductive HostPart
  | references
  | always (host : String)
  | failing (error : HostError)

inductive IdentityPart
  | scripted
  | federated (source : FederatedSource)

inductive RegistryPart
  | scripted
  | bound (server : Url)
  | genuine

structure Rehearsal where
  hosts : HostPart
  identity : IdentityPart
  registry : RegistryPart

namespace Rehearsal

def resolveHost (r : Rehearsal) (reference : String) : Except HostError String :=
  match r.hosts with
  | .references => Reference.resolveHost reference
  | .always host => .ok host
  | .failing error => .error error

def noIdentityAnswer : Cause := .other "no identity answer scripted"

def noRegistryAnswer : Cause := .other "no registry answer scripted"

def requestIdentity (r : Rehearsal) (request : IdentityRequest) (script : Script) :
    Delayed (Except Cause Issued) × Script :=
  match r.identity with
  | .federated source =>
    let (answer, around) := source.answer request script.around
    (answer, { script with around := around })
  | .scripted =>
    match script.identity with
    | [] => (⟨0, .error noIdentityAnswer⟩, script)
    | answer :: rest => (answer, { script with identity := rest })

def openClient (r : Rehearsal) (server : Url) (options : ClientOptions) (script : Script) :
    Except Cause RehearsalClient × Script :=
  match r.registry with
  | .bound url => ((ClientFactory.plain.openClient url options).map .genuine, script)
  | .genuine => ((ClientFactory.plain.openClient server options).map .genuine, script)
  | .scripted =>
    match script.registry with
    | [] => (.error noRegistryAnswer, script)
    | .noClient cause :: rest => (.error cause, { script with registry := rest })
    | .client answer :: rest => (.ok (.scripted answer), { script with registry := rest })

def exchange (client : RehearsalClient) (request : ExchangeRequest) (script : Script) :
    Delayed (Except Cause (Option Secret)) × Script :=
  match client with
  | .scripted answer => (answer, script)
  | .genuine client =>
    let (answer, around) := client.answer request script.around
    (answer, { script with around := around })

def collaborators (r : Rehearsal) : Collaborators Script RehearsalClient where
  resolveHost := r.resolveHost
  requestIdentity := r.requestIdentity
  openClient := r.openClient
  exchange := exchange

def shows (r : Rehearsal) : Event → Bool
  | .resolving _ => match r.hosts with
    | .references => false
    | _ => true
  | .asked _ => match r.identity with
    | .scripted => true
    | .federated _ => false
  | .building _ _ => match r.registry with
    | .genuine => false
    | _ => true
  | .exchanging _ => match r.registry with
    | .scripted => true
    | _ => false
  | .sourcePolled | .exchangePolled => false
  | _ => true

end Rehearsal

namespace Script

def registryPauses : RegistryLine → Nat
  | .noClient _ => 0
  | .client answer => answer.pauses

def patience (script : Script) (calls : Nat) : Nat :=
  script.identity.foldr (·.pauses + ·) 0 + script.registry.foldr (registryPauses · + ·) 0 +
    script.around.delays.foldr (· + ·) 0 + 2 * calls + 2

end Script

end RegistryLogin
