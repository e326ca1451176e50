import CredentialBroker.Cluster.Access
import CredentialBroker.OAuth.Provider
import CredentialBroker.Settings.Variable
import CredentialBroker.Word

namespace CredentialBroker

/-!
# Settings

What this program is set up with, read from the variables of the environment section by section;
the first variable that is refused ends the reading.
-/

/-- Where requests are listened for. -/
structure ListenSettings where
  /-- The host. -/
  host : String
  /-- The port. -/
  port : Nat
deriving DecidableEq

/-- How the cluster is reached. -/
structure ClusterSettings where
  /-- The base URL of its interface. -/
  apiUrl : String := "https://kubernetes.default.svc"
  /-- The file with the token of the platform. -/
  tokenFile : String := "/var/run/secrets/kubernetes.io/serviceaccount/token"
  /-- The file with the certificates that vouch for the cluster. -/
  caFile : Option String := none
  /-- The seconds to wait for an answer. -/
  timeout : Nat := 5
  /-- The custom resource that holds sessions. -/
  resource : SessionResource := {}
deriving DecidableEq

/-- What authorization flows are set up with. -/
structure OAuthSettings where
  /-- The key of state tokens; without one there are no flows. -/
  stateSecret : Option String
  /-- The URL under which this program is reached. -/
  backendUrl : String
  /-- What this program is known as at Google. -/
  google : Option ClientCredentials
  /-- What this program is known as at GitHub. -/
  github : Option ClientCredentials
  /-- The seconds to wait for tokens. -/
  exchangeTimeout : Nat
deriving DecidableEq

/-- How the use of access keys is noted. -/
structure UsageSettings where
  /-- Whether it is. -/
  enabled : Bool
  /-- The seconds it may take. -/
  timeout : Nat
deriving DecidableEq

/-- The settings of this program. -/
structure Settings where
  /-- Where requests are listened for. -/
  listen : ListenSettings
  /-- How the cluster is reached. -/
  cluster : ClusterSettings
  /-- The seconds for which issued tokens are to be valid. -/
  tokenLifetime : Nat
  /-- What authorization flows are set up with. -/
  oauth : OAuthSettings
  /-- How the use of access keys is noted. -/
  usage : UsageSettings
deriving DecidableEq

namespace Settings

/-- The variables that settings are read from. -/
def variableNames : List String :=
  ["API_HOST", "API_PORT", "CLUSTER_API_TIMEOUT_SECS", "CLUSTER_API_URL", "CLUSTER_TOKEN_FILE",
   "CLUSTER_CA_FILE", "SESSION_RESOURCE_GROUP", "SESSION_RESOURCE_VERSION",
   "SESSION_RESOURCE_PLURAL", "RUNNER_TOKEN_TTL_SECS", "OAUTH_EXCHANGE_TIMEOUT_SECS",
   "OAUTH_STATE_SECRET", "BACKEND_URL", "GOOGLE_OAUTH_CLIENT_ID", "GOOGLE_OAUTH_CLIENT_SECRET",
   "GITHUB_CLIENT_ID", "GITHUB_CLIENT_SECRET", "ACCESS_KEY_STAMP_ENABLED",
   "ACCESS_KEY_STAMP_TIMEOUT_SECS"]

/-- The greatest number of 64 bits. -/
def maxNumber : Nat := Word.values 64 - 1

/-- Reads where requests are listened for. -/
def readListen (env : Environment) : Except SettingsError ListenSettings := do
  let host ← env.text "API_HOST" "0.0.0.0"
  let port ← env.number "API_PORT" (Word.values 16 - 1) 8080
  pure ⟨host, port⟩

/-- Reads how the cluster is reached; it is to answer within 1 to 9 seconds. -/
def readCluster (env : Environment) : Except SettingsError ClusterSettings := do
  let defaults : ClusterSettings := {}
  let key := "CLUSTER_API_TIMEOUT_SECS"
  let timeout ← env.number key maxNumber defaults.timeout
  if timeout = 0 ∨ 9 < timeout then
    throw (.invalid key ("must be between 1 and 9 seconds, got " ++ toString timeout))
  let apiUrl ← env.text "CLUSTER_API_URL" defaults.apiUrl
  let tokenFile ← env.text "CLUSTER_TOKEN_FILE" defaults.tokenFile
  let caFile ← env.text? "CLUSTER_CA_FILE"
  let group ← env.text "SESSION_RESOURCE_GROUP" defaults.resource.group
  let version ← env.text "SESSION_RESOURCE_VERSION" defaults.resource.version
  let plural ← env.text "SESSION_RESOURCE_PLURAL" defaults.resource.plural
  pure ⟨apiUrl, tokenFile, caFile, timeout, ⟨group, version, plural⟩⟩

/-- Reads the lifetime of tokens; the cluster mints none for less than ten minutes. -/
def readTokenLifetime (env : Environment) : Except SettingsError Nat := do
  let key := "RUNNER_TOKEN_TTL_SECS"
  let lifetime ← env.number key maxNumber 3600
  if lifetime < 600 then
    throw (.invalid key ("must be at least 600, got " ++ toString lifetime))
  pure lifetime

/-- Reads what this program is known as at a provider: both parts or none. -/
def readCredentials (env : Environment) (idKey secretKey : String) :
    Except SettingsError (Option ClientCredentials) := do
  let id ← env.text? idKey
  let secret ← env.text? secretKey
  match id, secret with
  | some id, some secret => pure (some ⟨id, secret⟩)
  | some _, none => throw (.missing secretKey (idKey ++ " is set but its secret is not"))
  | none, _ => pure none

/-- Reads what authorization flows are set up with; tokens are waited for 10 to 30 seconds. -/
def readOAuth (env : Environment) : Except SettingsError OAuthSettings := do
  let timeout ← env.number "OAUTH_EXCHANGE_TIMEOUT_SECS" maxNumber 15
  let stateSecret ← env.text? "OAUTH_STATE_SECRET"
  let backendUrl ← env.text "BACKEND_URL" "http://localhost:8080"
  let google ← readCredentials env "GOOGLE_OAUTH_CLIENT_ID" "GOOGLE_OAUTH_CLIENT_SECRET"
  let github ← readCredentials env "GITHUB_CLIENT_ID" "GITHUB_CLIENT_SECRET"
  pure ⟨stateSecret, Text.trimEndOf '/' backendUrl, google, github, min (max timeout 10) 30⟩

/-- Reads how the use of access keys is noted. -/
def readUsage (env : Environment) : Except SettingsError UsageSettings := do
  let enabled ← env.flag "ACCESS_KEY_STAMP_ENABLED" true
  let timeout ← env.number "ACCESS_KEY_STAMP_TIMEOUT_SECS" maxNumber 3
  pure ⟨enabled, timeout⟩

/-- Reads the settings from the environment. -/
def read (env : Environment) : Except SettingsError Settings := do
  let listen ← readListen env
  let cluster ← readCluster env
  let tokenLifetime ← readTokenLifetime env
  let oauth ← readOAuth env
  let usage ← readUsage env
  pure ⟨listen, cluster, tokenLifetime, oauth, usage⟩

end Settings

namespace OAuthSettings

/-- Where providers send users back to. -/
def redirectUri (s : OAuthSettings) : String := s.backendUrl ++ "/oauth2callback"

/-- The providers that are set up. -/
def registry (s : OAuthSettings) : ProviderRegistry where
  google := s.google.map Provider.google
  github := s.github.map Provider.github
  redirectUri := s.redirectUri
  timeout := .ofSeconds (UInt64.ofNat s.exchangeTimeout)
  kind_google p h := by
    obtain ⟨credentials, _, rfl⟩ := Option.map_eq_some_iff.mp h
    rfl
  kind_github p h := by
    obtain ⟨credentials, _, rfl⟩ := Option.map_eq_some_iff.mp h
    rfl

end OAuthSettings

end CredentialBroker
