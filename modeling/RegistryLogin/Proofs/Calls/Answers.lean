import RegistryLogin.Proofs.Calls.IdentitySide

namespace RegistryLogin

structure Answers (Client : Type) where
  resolveHost : String → Except HostError String
  identity : Nat → Delayed (Except Cause Issued)
  openClient : Url → ClientOptions → Except Cause Client
  exchange : Client → ExchangeRequest → Delayed (Except Cause (Option Secret))

namespace Answers

variable {Client : Type} (a : Answers Client)

def collaborators : Collaborators Nat Client where
  resolveHost := a.resolveHost
  requestIdentity _ asked := (a.identity asked, asked + 1)
  openClient server options asked := (a.openClient server options, asked)
  exchange client request asked := (a.exchange client request, asked)

def provider : Provider Nat Client := ⟨"", "", .default, .default, .custom, a.collaborators⟩

def hourly : Answers Unit where
  resolveHost reference := if reference.isEmpty then .error .empty else .ok reference
  identity _ := ⟨1, .ok (.lasting ⟨"token"⟩ ⟨3600000000000, by decide, by decide⟩)⟩
  openClient _ _ := .ok ()
  exchange _ _ := ⟨0, .ok none⟩

def numbered : Answers Unit where
  resolveHost := .ok
  identity n := ⟨0, .ok (.lasting ⟨"token " ++ toString n⟩ ⟨3600000000000, by decide, by decide⟩)⟩
  openClient _ _ := .ok ()
  exchange _ request := ⟨1, .ok (some ⟨"refresh by " ++ request.accessToken.text⟩)⟩

end Answers

namespace Provider

variable {Client : Type} {p : Provider Nat Client} {a : Answers Client}
variable (hp : p.collaborators = a.collaborators)
include hp

lemma answerIn_eq (asked : Nat) : p.answerIn asked = a.identity asked := by
  simp [answerIn, hp, Answers.collaborators]

lemma asked_eq (call : Nat) (x : IdentitySide Nat) :
    p.asked call x = (x.meet (.asked call p.identityRequest)).inWorld (x.world + 1) := by
  simp [asked, hp, Answers.collaborators]

end Provider

end RegistryLogin
