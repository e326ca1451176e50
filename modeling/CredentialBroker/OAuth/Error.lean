namespace CredentialBroker

/-!
# Failures of the authorization flow

Why a state token is refused, and why a provider gives no tokens.
-/

/-- Why a state token is refused. -/
inductive StateError where
  /-- The text is not two parts with a dot between them. -/
  | malformed
  /-- A part is not written in base64. -/
  | encoding (part : String)
  /-- The signature does not belong to the payload. -/
  | badSignature
  /-- The token is too old. -/
  | expired (seconds : Int)
  /-- The token was made later than now. -/
  | futureTimestamp
  /-- The payload is no document of the expected form. -/
  | payload (detail : String)
  /-- There is no key to verify with. -/
  | notConfigured
deriving DecidableEq

/-- The refusal in words. -/
def StateError.message : StateError → String
  | .malformed => "state token must be '<payload>.<signature>'"
  | .encoding part => "state token " ++ part ++ " is not valid base64url"
  | .badSignature => "state signature mismatch"
  | .expired seconds => "state token expired (age " ++ toString seconds ++ "s)"
  | .futureTimestamp => "state token timestamp is in the future"
  | .payload detail => "state payload is not valid: " ++ detail
  | .notConfigured => "OAuth state secret is not configured"

/-- The name of the refusal. -/
def StateError.label : StateError → String
  | .malformed => "Malformed"
  | .encoding _ => "Encoding"
  | .badSignature => "BadSignature"
  | .expired _ => "Expired"
  | .futureTimestamp => "FutureTimestamp"
  | .payload _ => "Payload"
  | .notConfigured => "NotConfigured"

/-- Why a provider gives no tokens. -/
inductive OAuthError where
  /-- There is no provider of that name. -/
  | unsupportedProvider (name : String)
  /-- The provider is known and not set up. -/
  | notConfigured (provider : String)
  /-- The provider refused the code. -/
  | exchangeFailed (provider : String) (status : Nat) (detail : String)
  /-- The provider did not answer in time. -/
  | timeout (provider : String)
  /-- The answer of the provider cannot be used. -/
  | invalidResponse (provider reason : String)
  /-- The provider could not be asked. -/
  | http (detail : String)
deriving DecidableEq

/-- The failure in words. -/
def OAuthError.message : OAuthError → String
  | .unsupportedProvider name => "Unsupported OAuth provider: " ++ name
  | .notConfigured provider => provider ++ " OAuth is not configured"
  | .exchangeFailed provider status detail =>
    "Token exchange with " ++ provider ++ " failed with status " ++ toString status ++ ": " ++
      detail
  | .timeout provider => "Token exchange with " ++ provider ++ " timed out"
  | .invalidResponse provider reason =>
    "Invalid token response from " ++ provider ++ ": " ++ reason
  | .http detail => "HTTP error: " ++ detail

/-- The name of the failure. -/
def OAuthError.label : OAuthError → String
  | .unsupportedProvider _ => "UnsupportedProvider"
  | .notConfigured _ => "NotConfigured"
  | .exchangeFailed .. => "ExchangeFailed"
  | .timeout _ => "Timeout"
  | .invalidResponse .. => "InvalidResponse"
  | .http _ => "Http"

end CredentialBroker
