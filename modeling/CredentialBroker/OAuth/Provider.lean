import CredentialBroker.OAuth.Error
import CredentialBroker.Text.Blank
import CredentialBroker.Text.Description
import CredentialBroker.Text.Split
import CredentialBroker.Time.Span
import CredentialBroker.Url.Reader

namespace CredentialBroker

/-!
# Providers

The services at which users can authorize this program, what it is known as there, and the URL a
user is sent to.
-/

/-- The providers this program knows. -/
inductive ProviderKind where
  /-- Google. -/
  | google
  /-- GitHub. -/
  | github
deriving DecidableEq

namespace ProviderKind

/-- The name of a provider. -/
def text : ProviderKind → String
  | .google => "google"
  | .github => "github"

/-- The provider with a name, blanks around it and the case of its letters left aside. -/
def ofText (s : String) : Except OAuthError ProviderKind :=
  let name := Text.lowercase (Text.trim s)
  if name = "google" then .ok .google
  else if name = "github" then .ok .github
  else .error (.unsupportedProvider name)

/-- The name of a provider in descriptions. -/
def description : ProviderKind → String
  | .google => "Google"
  | .github => "Github"

end ProviderKind

/-- What this program is known as at a provider. -/
structure ClientCredentials where
  /-- The identifier. -/
  clientId : String
  /-- The secret. -/
  clientSecret : String
deriving DecidableEq

/-- A provider that is set up. -/
structure Provider where
  /-- Which provider it is. -/
  kind : ProviderKind
  /-- What this program is known as there. -/
  credentials : ClientCredentials
  /-- Where users are sent. -/
  authorizeUrl : String
  /-- Where codes are exchanged for tokens. -/
  tokenUrl : String
  /-- What is asked for. -/
  scopes : List String
  /-- Further parameters of the URL users are sent to. -/
  authorizeParams : List (String × String)
deriving DecidableEq

namespace Provider

/-- Google; offline access and a fresh consent are what makes it hand out a refresh token. -/
def google (credentials : ClientCredentials) : Provider where
  kind := .google
  credentials := credentials
  authorizeUrl := "https://accounts.google.com/o/oauth2/v2/auth"
  tokenUrl := "https://oauth2.googleapis.com/token"
  scopes :=
    ["openid",
     "https://www.googleapis.com/auth/userinfo.email",
     "https://www.googleapis.com/auth/userinfo.profile",
     "https://www.googleapis.com/auth/drive",
     "https://www.googleapis.com/auth/drive.readonly",
     "https://www.googleapis.com/auth/drive.file"]
  authorizeParams := [("access_type", "offline"), ("prompt", "consent")]

/-- GitHub. -/
def github (credentials : ClientCredentials) : Provider where
  kind := .github
  credentials := credentials
  authorizeUrl := "https://github.com/login/oauth/authorize"
  tokenUrl := "https://github.com/login/oauth/access_token"
  scopes := ["repo", "user"]
  authorizeParams := []

/-- The provider of a kind. -/
def of : ProviderKind → ClientCredentials → Provider
  | .google => google
  | .github => github

/-- The provider described for logs. -/
def description (p : Provider) : String :=
  Description.partialRecord "OAuthProvider"
    [("kind", p.kind.description), ("client_id", Text.quoted p.credentials.clientId),
     ("client_secret", Description.redacted), ("token_url", Text.quoted p.tokenUrl)]

/-- The parameters of the URL users are sent to. -/
def authorizationPairs (p : Provider) (redirectUri state : String) : List (String × String) :=
  [("client_id", p.credentials.clientId), ("redirect_uri", redirectUri),
   ("response_type", "code"), ("scope", " ".intercalate p.scopes), ("state", state)] ++
    p.authorizeParams

/-- The URL a user is sent to, with a state token. -/
def authorizationUrl (p : Provider) (redirectUri state : String) : Except OAuthError Url :=
  match Url.read? p.authorizeUrl with
  | some url => .ok (url.appendPairs (p.authorizationPairs redirectUri state))
  | none => .error (.invalidResponse p.kind.text "bad authorize URL: not an absolute URL")

end Provider

/-- The providers that are set up, each in the place of its kind, and what they have in common. -/
structure ProviderRegistry where
  /-- Google, if it is set up. -/
  google : Option Provider
  /-- GitHub, if it is set up. -/
  github : Option Provider
  /-- Where providers send users back to. -/
  redirectUri : String
  /-- How long to wait for tokens. -/
  timeout : Span
  /-- In the place of Google stands Google. -/
  kind_google : ∀ p ∈ google, p.kind = .google
  /-- In the place of GitHub stands GitHub. -/
  kind_github : ∀ p ∈ github, p.kind = .github

namespace ProviderRegistry

/-- The registry without providers. -/
def empty (redirectUri : String) (timeout : Span) : ProviderRegistry where
  google := none
  github := none
  redirectUri := redirectUri
  timeout := timeout
  kind_google := nofun
  kind_github := nofun

/-- The registry with a provider set up in the place of its kind. -/
def register (r : ProviderRegistry) (p : Provider) : ProviderRegistry :=
  match h : p.kind with
  | .google => { r with google := some p, kind_google := fun _ hq => Option.some.inj hq ▸ h }
  | .github => { r with github := some p, kind_github := fun _ hq => Option.some.inj hq ▸ h }

/-- The provider of a kind, if it is set up. -/
def ofKind? (r : ProviderRegistry) : ProviderKind → Option Provider
  | .google => r.google
  | .github => r.github

theorem kind_of_ofKind? {r : ProviderRegistry} {kind : ProviderKind} {p : Provider}
    (h : r.ofKind? kind = some p) : p.kind = kind := by
  cases kind with
  | google => exact r.kind_google p h
  | github => exact r.kind_github p h

/-- The provider with a name. -/
def get (r : ProviderRegistry) (name : String) : Except OAuthError Provider := do
  let kind ← ProviderKind.ofText name
  match r.ofKind? kind with
  | some p => pure p
  | none => throw (.notConfigured kind.text)

end ProviderRegistry

end CredentialBroker
