import RegistryLogin.Proofs.Url.Joining
import RegistryLogin.Registry.Exchange
import Mathlib.Tactic.SplitIfs

namespace RegistryLogin

namespace Url

lemma asDirectory_segments (list : List (List Char)) : ∃ front, UrlPath.asDirectory (.segments list) =
    .segments (front ++ [[]]) := by
  rw [UrlPath.asDirectory]
  split
  · rename_i ends
    obtain ⟨front, rfl⟩ := List.getLast?_eq_some_iff.mp ends
    exact ⟨front, rfl⟩
  · exact ⟨list, rfl⟩

end Url

namespace RegistryClient

lemma quiet_exchange : ∀ segment ∈ ["oauth2".toList, "exchange".toList], Url.Quiet segment := by
  decide

variable {client : RegistryClient}

theorem endpoint_of_web (web : Url.isWeb client.server.scheme = true)
    (segmented : client.server.path.isOpaque = false) :
    ∃ front, client.server.path.asDirectory = .segments (front ++ [[]]) ∧
      client.endpoint = .ok { client.server with
        path := .segments (front ++ ["oauth2".toList, "exchange".toList])
        query := none
        fragment := none } := by
  obtain ⟨list, path⟩ : ∃ list, client.server.path = .segments list := by
    cases hp : client.server.path with
    | opaquely text =>
      rw [hp] at segmented
      cases segmented
    | segments list => exact ⟨list, rfl⟩
  obtain ⟨front, directory⟩ := Url.asDirectory_segments list
  refine ⟨front, by rw [path, directory], ?_⟩
  have based : client.server.asDirectory.path = .segments (front ++ [[]]) := by
    rw [Url.asDirectory, path, directory]
  have web : Url.isWeb client.server.asDirectory.scheme = true := web
  rw [endpoint, Url.join_segments web based (by rfl) quiet_exchange]
  simp [Url.asDirectory]

end RegistryClient

namespace ClientFactory

variable {factory : ClientFactory} {server : Url} {options : ClientOptions}

theorem build_ok {client : RegistryClient} (h : factory.build server options = .ok client) :
    client.server = server ∧ Url.isWeb server.scheme = true := by
  unfold build at h
  by_cases web : Url.isWeb server.scheme = true
  · rw [if_neg (by simpa using web)] at h
    split at h
    · obtain rfl := Except.ok.inj h
      exact ⟨rfl, web⟩
    · split_ifs at h
      obtain rfl := Except.ok.inj h
      exact ⟨rfl, web⟩
  · rw [if_pos web] at h
    cases h

theorem build_error {error : ExchangeError} (web : Url.isWeb server.scheme = true)
    (h : factory.build server options = .error error) :
    error = .clientBuild ∧ ¬ options.userAgent.all ClientOptions.isUsableName := by
  unfold build at h
  rw [if_neg (by simpa using web)] at h
  split at h
  · cases h
  · split_ifs at h with usable
    obtain rfl := Except.error.inj h
    exact ⟨rfl, usable⟩

end ClientFactory

end RegistryLogin
