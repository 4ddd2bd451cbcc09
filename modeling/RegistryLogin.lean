import RegistryLogin.Proofs.Refresh.SingleFlight
import RegistryLogin.Proofs.Serial.Serializability
import RegistryLogin.Provider.Rehearsal
import RegistryLogin.Proofs.Calls.Phases
import RegistryLogin.Proofs.Exchange.Tokens
import RegistryLogin.Proofs.Exchange.Credentials
import RegistryLogin.Proofs.Exchange.CachedTokens
import RegistryLogin.Proofs.Url.References
import RegistryLogin.Proofs.Identity.Endpoint
import RegistryLogin.Proofs.Refresh.Overflows
import RegistryLogin.Proofs.Identity.Lifetimes
import RegistryLogin.Proofs.Record.Lines
import RegistryLogin.Proofs.Record.Reports
import RegistryLogin.Proofs.Record.Conservation
import RegistryLogin.Proofs.Record.Histories
import RegistryLogin.Proofs.Record.Exports
import RegistryLogin.Proofs.Record.Turns
import RegistryLogin.Proofs.Record.Journeys
import RegistryLogin.Proofs.Record.Outcomes
import RegistryLogin.Proofs.Secrecy.Alike
import RegistryLogin.Proofs.Secrecy.Simulation
import RegistryLogin.Proofs.Secrecy.Redaction
import RegistryLogin.Proofs.Separation.Registries
import RegistryLogin.Proofs.Text.Splitting
import RegistryLogin.Proofs.Text.Encoding
import RegistryLogin.Proofs.Time.Parts
import RegistryLogin.Proofs.Http.Forms
import RegistryLogin.Proofs.Http.Bodies
import RegistryLogin.Proofs.Reference.Patterns
import RegistryLogin.Proofs.Reference.Spelling
import RegistryLogin.Proofs.Reference.Hosts
import RegistryLogin.Proofs.Url.Domains
import RegistryLogin.Proofs.Url.Servers
import RegistryLogin.Proofs.Url.Addresses
import RegistryLogin.Proofs.Reference.Servers
import RegistryLogin.Proofs.Json.Scanning
import RegistryLogin.Proofs.Json.Trees
import RegistryLogin.Proofs.Json.Records
import RegistryLogin.Proofs.Url.Joining
import RegistryLogin.Proofs.Registry.Endpoints
import RegistryLogin.Proofs.Registry.Answers
import RegistryLogin.Proofs.Registry.Hosts
import RegistryLogin.Proofs.Identity.Grants
import RegistryLogin.Proofs.Identity.TokenAnswers
import RegistryLogin.Proofs.Identity.Enabling
import RegistryLogin.Proofs.Json.Writing
import RegistryLogin.Proofs.Login.TokenText
import RegistryLogin.Proofs.Refresh.Staleness
import RegistryLogin.Proofs.Settings.Gates
import RegistryLogin.Proofs.Url.Numbers
import RegistryLogin.Proofs.Url.Names
import RegistryLogin.Proofs.Reference.Validity
import RegistryLogin.Proofs.Url.Paths
import RegistryLogin.Proofs.Http.Endpoints
import RegistryLogin.Http.Handles
import RegistryLogin.Proofs.Http.Handles
import RegistryLogin.Proofs.Record.Spans
import RegistryLogin.Proofs.Time.MailDates
import RegistryLogin.Proofs.Http.Headers
import RegistryLogin.Proofs.Http.Hints
import RegistryLogin.Proofs.Settings.Decoding
import RegistryLogin.Proofs.Registry.Previews
import RegistryLogin.Proofs.Time.Readings
