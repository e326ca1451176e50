import CredentialBroker.Credential.Grant
import CredentialBroker.OAuth.Exchange
import CredentialBroker.OAuth.StateToken

namespace CredentialBroker

/-!
# The authorization flow

`OAuthFlow.begin` gives a caller who may read a session the URL to send the user to.
`OAuthFlow.complete` takes what the provider's redirect brings: the state token is checked before
anything is asked of anyone, and the grant is written last, so a forged redirect leaves no trace.
-/

/-- The name of the secret with a session's grant of a provider. -/
def grantSecretName (session : String) (provider : ProviderKind) : String :=
  session ++ "-" ++ provider.text ++ "-oauth"

/-- Where a user is sent, and the state token in that URL. -/
structure AuthorizationRequest where
  /-- The URL. -/
  url : String
  /-- The state token. -/
  state : String
deriving DecidableEq

/-- What the redirect of a provider brings. -/
structure CallbackParams where
  /-- The authorization code. -/
  code : Option String
  /-- The state token. -/
  state : Option String
  /-- What went wrong. -/
  error : Option String
  /-- What went wrong, in words. -/
  errorDescription : Option String
deriving DecidableEq

/-- How a flow ended. -/
inductive CallbackOutcome where
  /-- The grant is in a secret. -/
  | stored (session : ObjectRef) (provider : ProviderKind) (secret : ObjectRef)
  /-- The provider reported an error. -/
  | providerDenied (error : String) (description : Option String)
deriving DecidableEq

/-- What flows need. -/
structure OAuthFlow where
  /-- What signs state tokens; without it there are no flows. -/
  signer : Option StateSigner
  /-- The providers. -/
  providers : ProviderRegistry

namespace OAuthFlow

/-- The seconds for which an access token is taken to be valid when the provider does not say. -/
def defaultExpiresIn : Int := 3600

/-- What signs state tokens. -/
def requireSigner (f : OAuthFlow) : Except CredentialError StateSigner :=
  match f.signer with
  | some s => .ok s
  | none => .error StateError.notConfigured.toCredential

/-- The provider with a name. -/
def provider (f : OAuthFlow) (name : String) : Except CredentialError Provider :=
  (f.providers.get name).mapError OAuthError.toCredential

/-- Begins a flow for a session as a client that must be able to read it. -/
def begin (f : OAuthFlow) (who : Client) (session : ObjectRef) (provider : String) :
    Action CredentialError AuthorizationRequest := do
  let signer ← Action.ofExcept f.requireSigner
  let provider ← Action.ofExcept (f.provider provider)
  discard ((Action.cluster who (.getSession session)).mapError ClusterError.toCredential)
  let now ← Action.clock
  let state := signer.sign ⟨provider.kind.text, session.ns, session.name, now.seconds⟩
  let url ← Action.ofExcept
    ((provider.authorizationUrl f.providers.redirectUri state).mapError OAuthError.toCredential)
  pure ⟨url.text, state⟩

/-- A parameter that is there and not empty. -/
def nonEmpty (p : Option String) : Option String := p.filter (· ≠ "")

/-- The code and the payload of the state token in a redirect without error. -/
def admitted (f : OAuthFlow) (params : CallbackParams) (now : Timestamp) :
    Except CredentialError (String × StatePayload × Provider) := do
  let code ← match nonEmpty params.code with
    | some code => pure code
    | none => throw (.invalidInput "missing authorization code")
  let state ← match nonEmpty params.state with
    | some state => pure state
    | none => throw (.tamper "missing state")
  let signer ← f.requireSigner
  let payload ← (signer.verify state now.seconds).mapError StateError.toCredential
  if payload.project = "" ∨ payload.session = "" then
    throw (.invalidInput "state carries no session")
  let provider ← f.provider payload.provider
  pure (code, payload, provider)

/-- The labels of a secret with a grant. -/
def labels (session : String) (provider : ProviderKind) : SortedMap String String :=
  SortedMap.ofList [("app", "ambient-code"), ("ambient-code.io/session", session),
    ("ambient-code.io/provider", provider.text), ("ambient-code.io/oauth", "true")]

/-- The grant made from the tokens of a provider, whose end must be within the calendar. -/
def grant (p : Provider) (tokens : TokenResponse) (now : Timestamp) : StoredGrant where
  token := tokens.accessToken
  refreshToken := tokens.refreshToken.getD ""
  tokenUri := p.tokenUrl
  clientId := p.credentials.clientId
  clientSecret := p.credentials.clientSecret
  scopes := p.scopes
  expiry :=
    { now with
      seconds := now.seconds + tokens.expiresIn.getD defaultExpiresIn : Timestamp }.naiveText

/-- Gets tokens for a code and stores them for the session a state token names. -/
def store (f : OAuthFlow) (code : String) (payload : StatePayload) (p : Provider) :
    Action CredentialError CallbackOutcome := do
  let ref := payload.ref
  let session ← (Action.cluster .platform (.getSession ref)).mapError ClusterError.toCredential
  let tokens ← (f.providers.exchange p code).mapError OAuthError.toCredential
  let now ← Action.clock
  let secret : ObjectRef := ⟨ref.ns, grantSecretName ref.name p.kind⟩
  let store : CredentialStore := { client := .platform }
  store.writeGrant secret session.ownerReference (labels ref.name p.kind) (grant p tokens now)
  pure (.stored ref p.kind secret)

/-- Completes a flow with what a redirect brings. -/
def complete (f : OAuthFlow) (params : CallbackParams) :
    Action CredentialError CallbackOutcome := do
  match nonEmpty params.error with
  | some error => pure (.providerDenied error params.errorDescription)
  | none =>
    let now ← Action.clock
    let (code, payload, provider) ← Action.ofExcept (f.admitted params now)
    f.store code payload provider

end OAuthFlow

end CredentialBroker
