import CredentialBroker.Credential.Store
import CredentialBroker.Json.Reader
import CredentialBroker.Json.Record

namespace CredentialBroker

/-!
# Credentials of providers

What a provider granted for a session, as the document that the session's job reads.  It is kept
in a secret under three keys: the whole document, the access token and the refresh token; a write
replaces all three.
-/

/-- A grant of a provider. -/
structure StoredGrant where
  /-- The access token. -/
  token : String
  /-- The refresh token, empty when there is none. -/
  refreshToken : String
  /-- Where the token can be refreshed. -/
  tokenUri : String
  /-- The identifier of this program at the provider. -/
  clientId : String
  /-- The secret of this program at the provider. -/
  clientSecret : String
  /-- What was granted. -/
  scopes : List String
  /-- When the access token ceases to be valid: universal time without a zone. -/
  expiry : String
deriving DecidableEq

namespace StoredGrant

/-- The key of the document. -/
def documentKey : String := "credentials.json"

/-- The key of the access token. -/
def accessTokenKey : String := "access_token"

/-- The key of the refresh token. -/
def refreshTokenKey : String := "refresh_token"

/-- The fields of the document, in order. -/
def fieldNames : List String :=
  ["token", "refresh_token", "token_uri", "client_id", "client_secret", "scopes", "expiry"]

/-- The grant a document holds. -/
def ofJson? (j : Json) : Option StoredGrant := do
  match ← j.fields? fieldNames with
  | [token, refreshToken, tokenUri, clientId, clientSecret, scopes, expiry] =>
    pure {
      token := ← Json.required Json.text? token
      refreshToken := ← Json.required Json.text? refreshToken
      tokenUri := ← Json.required Json.text? tokenUri
      clientId := ← Json.required Json.text? clientId
      clientSecret := ← Json.required Json.text? clientSecret
      scopes := ← Json.required (Json.list? Json.text?) scopes
      expiry := ← Json.required Json.text? expiry }
  | _ => none

/-- The document of a grant. -/
def toJson (g : StoredGrant) : Json :=
  .obj [("token", .str g.token), ("refresh_token", .str g.refreshToken),
    ("token_uri", .str g.tokenUri), ("client_id", .str g.clientId),
    ("client_secret", .str g.clientSecret), ("scopes", Json.texts g.scopes),
    ("expiry", .str g.expiry)]

/-- The document of a grant as it is stored. -/
def document (g : StoredGrant) : Bytes := Text.utf8 (Json.pretty g.toJson)

/-- The entries of a secret that holds a grant. -/
def entries (g : StoredGrant) : SortedMap String Bytes :=
  SortedMap.ofList [(documentKey, g.document), (accessTokenKey, Text.utf8 g.token),
    (refreshTokenKey, Text.utf8 g.refreshToken)]

/-- The grant described for logs. -/
def description (g : StoredGrant) : String :=
  Description.record "StoredOAuthCredential"
    [("token", Description.redacted), ("refresh_token", Description.redacted),
     ("token_uri", Text.quoted g.tokenUri), ("client_id", Text.quoted g.clientId),
     ("client_secret", Description.redacted), ("scopes", Description.texts g.scopes),
     ("expiry", Text.quoted g.expiry)]

end StoredGrant

/-- Writes a grant into a secret. -/
def CredentialStore.writeGrant (st : CredentialStore) (ref : ObjectRef) (owner : OwnerReference)
    (labels : SortedMap String String) (g : StoredGrant) : Action CredentialError Unit :=
  st.write ref ⟨g.entries, labels, owner⟩

end CredentialBroker
