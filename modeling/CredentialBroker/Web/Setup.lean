import CredentialBroker.OAuth.StateToken
import CredentialBroker.Rest.Client
import CredentialBroker.Settings.Basic
import CredentialBroker.Web.Service

namespace CredentialBroker.Settings

/-!
# Setting up

What is made of the settings: the signer of state tokens, the authorization flow, the service that
answers requests, and the client of the cluster that all of them call.
-/

variable (s : Settings)

/-- What signs state tokens, if there is a key for it. -/
def signer? : Option StateSigner := s.oauth.stateSecret.map StateSigner.ofSecret

/-- The authorization flow. -/
def flow : OAuthFlow := ⟨s.signer?, s.oauth.registry⟩

/-- What issues credentials. -/
def issuer : Issuer where
  resource := s.cluster.resource
  lifetime := .ofSeconds (UInt64.ofNat s.tokenLifetime)

/-- What requests are answered with. -/
def service : Web.Service where
  issuer := s.issuer
  flow := s.flow
  notesUsage := s.usage.enabled

/-- The platform's own client of the cluster. -/
def connect : Rest.WireAction RestClient :=
  RestClient.setUp s.cluster.apiUrl s.cluster.tokenFile s.cluster.caFile
    (.ofSeconds (UInt64.ofNat s.cluster.timeout)) s.cluster.resource

end CredentialBroker.Settings
