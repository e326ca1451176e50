import CredentialBroker.Codec.Form
import CredentialBroker.Effect.Action
import CredentialBroker.Json.Reader
import CredentialBroker.OAuth.Provider

namespace CredentialBroker

/-!
# Exchanging codes for tokens

One request to the provider's token endpoint, and how its answer is read.  An answer with an
error in it is a refusal whatever its status, and so is one without an access token.
-/

/-- What a token endpoint answers. -/
structure TokenResponse where
  /-- The access token, empty when there is none. -/
  accessToken : String
  /-- The refresh token. -/
  refreshToken : Option String
  /-- The seconds for which the access token is valid. -/
  expiresIn : Option Int
  /-- The kind of token. -/
  tokenType : Option String
  /-- What was granted. -/
  scope : Option String
  /-- What went wrong. -/
  error : Option String
  /-- What went wrong, in words. -/
  errorDescription : Option String
deriving DecidableEq

namespace TokenResponse

/-- The fields of the document, in order. -/
def fieldNames : List String :=
  ["access_token", "refresh_token", "expires_in", "token_type", "scope", "error",
   "error_description"]

/-- The answer a document holds. -/
def ofJson? (j : Json) : Option TokenResponse := do
  match ← j.fields? fieldNames with
  | [accessToken, refreshToken, expiresIn, tokenType, scope, error, errorDescription] =>
    pure {
      accessToken := ← Json.defaulted "" Json.text? accessToken
      refreshToken := ← Json.optional Json.text? refreshToken
      expiresIn := ← Json.optional Json.int64? expiresIn
      tokenType := ← Json.optional Json.text? tokenType
      scope := ← Json.optional Json.text? scope
      error := ← Json.optional Json.text? error
      errorDescription := ← Json.optional Json.text? errorDescription }
  | _ => none

/-- The answer described for logs. -/
def description (t : TokenResponse) : String :=
  Description.partialRecord "TokenResponse"
    [("access_token", Description.redacted),
     ("has_refresh_token", toString t.refreshToken.isSome),
     ("expires_in", Description.option toString t.expiresIn),
     ("scope", Description.option Text.quoted t.scope)]

end TokenResponse

namespace Provider

/-- The pairs of the form that asks for tokens. -/
def exchangePairs (p : Provider) (redirectUri code : String) : List (String × String) :=
  [("grant_type", "authorization_code"), ("code", code), ("client_id", p.credentials.clientId),
   ("client_secret", p.credentials.clientSecret), ("redirect_uri", redirectUri)]

/-- The request that asks for tokens. -/
def exchangeRequest (p : Provider) (redirectUri code : String) :
    Except OAuthError Http.Request :=
  let headers := [("accept", "application/json"),
    ("content-type", "application/x-www-form-urlencoded")]
  let body := Text.utf8 (Form.encode (p.exchangePairs redirectUri code))
  match Http.Request.make? "POST" p.tokenUrl headers body with
  | some request => .ok request
  | none => .error (.http "builder error")

/-- The tokens in an answer. -/
def readTokens (p : Provider) (r : Http.Response) : Except OAuthError TokenResponse :=
  if ¬ r.isSuccess then .error (.exchangeFailed p.kind.text r.status r.excerpt)
  else
    match (Json.read? r.body).bind TokenResponse.ofJson? with
    | none => .error (.invalidResponse p.kind.text "error decoding response body")
    | some tokens =>
      match tokens.error with
      | some error =>
        .error (.exchangeFailed p.kind.text r.status (tokens.errorDescription.getD error))
      | none =>
        if tokens.accessToken = "" then
          .error (.invalidResponse p.kind.text "no access token in response")
        else .ok tokens

/-- A request without an answer as a failure of the provider. -/
def exchangeFault (p : Provider) : Http.Fault → OAuthError
  | .timedOut => .timeout p.kind.text
  | .failed detail => .http detail

end Provider

/-- Exchanges a code for tokens. -/
def ProviderRegistry.exchange (r : ProviderRegistry) (p : Provider) (code : String) :
    Action OAuthError TokenResponse := do
  let request ← Action.ofExcept (p.exchangeRequest r.redirectUri code)
  let response ← (Action.exchange request r.timeout).mapError p.exchangeFault
  Action.ofExcept (p.readTokens response)

end CredentialBroker
