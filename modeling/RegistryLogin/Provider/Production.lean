import RegistryLogin.Identity.Federated
import RegistryLogin.Provider.Basic

/-! The collaborators of a provider that works with files and a network. -/

namespace RegistryLogin

namespace FederatedSource

def answer (source : FederatedSource) (request : IdentityRequest) (around : Surroundings) :
    Delayed (Except Cause Issued) × Surroundings :=
  let (result, network) := source.request request around
  (⟨around.delays.headD 0, result.mapError .identity⟩, around.after network)

end FederatedSource

namespace ClientFactory

def plain : ClientFactory := ⟨none⟩

def openClient (factory : ClientFactory) (server : Url) (options : ClientOptions) :
    Except Cause RegistryClient :=
  (factory.build server options).mapError .exchange

end ClientFactory

namespace RegistryClient

def answer (client : RegistryClient) (request : ExchangeRequest) (around : Surroundings) :
    Delayed (Except Cause (Option Secret)) × Surroundings :=
  let (result, network) := client.exchange request around.present around.network
  (⟨around.delays.headD 0, result.mapError .exchange⟩, around.after network)

end RegistryClient

namespace Provider

def genuine (source : FederatedSource) : Collaborators Surroundings RegistryClient where
  resolveHost := Reference.resolveHost
  requestIdentity := source.answer
  openClient server options around := (ClientFactory.plain.openClient server options, around)
  exchange := RegistryClient.answer

def ofSettings (settings : Settings) : Provider Surroundings RegistryClient where
  tenantId := settings.tenantId
  clientId := settings.clientId
  options := .default
  margin := .default
  sink := .histogram
  collaborators := genuine (.new settings.tokenFile settings.authority)

def ofConfig (value : Json.Value) (env : Environment) :
    Except SettingsError (Provider Surroundings RegistryClient) :=
  (Settings.ofConfig value env).map ofSettings

end Provider

end RegistryLogin
