import CredentialBroker.Cluster.Ref
import CredentialBroker.Codec.Base64
import CredentialBroker.Digest.Hmac
import CredentialBroker.Json.Reader
import CredentialBroker.Json.Record
import CredentialBroker.Json.Writer
import CredentialBroker.OAuth.Error
import CredentialBroker.Text.Split

namespace CredentialBroker

/-!
# State tokens

A state token ties the redirect of a provider to the session for which a flow was begun.  It is
the document of a payload and its authentication code, each in base64 for URLs, with a dot
between them, and is good for five minutes.
-/

/-- What a state token vouches for. -/
structure StatePayload where
  /-- The provider. -/
  provider : String
  /-- The namespace of the session. -/
  project : String
  /-- The name of the session. -/
  session : String
  /-- When the token was made, in seconds since 1970. -/
  timestamp : Int
deriving DecidableEq

namespace StatePayload

/-- The fields of the document, in order. -/
def fieldNames : List String := ["provider", "projectName", "sessionName", "timestamp"]

/-- The payload a document holds. -/
def ofJson? (j : Json) : Option StatePayload := do
  match ← j.fields? fieldNames with
  | [provider, project, session, timestamp] =>
    pure {
      provider := ← Json.required Json.text? provider
      project := ← Json.required Json.text? project
      session := ← Json.required Json.text? session
      timestamp := ← Json.required Json.int64? timestamp }
  | _ => none

/-- The document of a payload. -/
def toJson (p : StatePayload) : Json :=
  .obj [("provider", .str p.provider), ("projectName", .str p.project),
    ("sessionName", .str p.session), ("timestamp", .int p.timestamp)]

/-- The octets of a payload that are signed. -/
def octets (p : StatePayload) : Bytes := Text.utf8 (Json.compact p.toJson)

/-- The address of the session that a payload names. -/
def ref (p : StatePayload) : ObjectRef := ⟨p.project, p.session⟩

end StatePayload

/-- What makes and checks state tokens: an authentication code over octets. -/
structure StateSigner where
  /-- The authentication code of octets. -/
  code : Bytes → Bytes
  /-- No authentication code is empty. -/
  code_ne_nil : ∀ octets, code octets ≠ []

namespace StateSigner

/-- The longest age of a token in seconds. -/
def maxAge : Int := 300

/-- The signer whose codes are keyed with a secret. -/
def ofSecret (secret : String) : StateSigner where
  code := Hmac.sign (Text.utf8 secret)
  code_ne_nil octets := List.ne_nil_of_length_pos (by rw [Hmac.length_sign]; decide)

/-- The token of the given payload octets. -/
def signOctets (s : StateSigner) (octets : Bytes) : String :=
  Base64.encode Base64.urlSafe octets ++ "." ++ Base64.encode Base64.urlSafe (s.code octets)

/-- The token of a payload. -/
def sign (s : StateSigner) (p : StatePayload) : String := s.signOctets p.octets

/-- The two parts of a token, neither empty, with one dot in all. -/
def parts (token : String) : Except StateError (String × String) :=
  match Text.cut? '.' token with
  | none => .error .malformed
  | some (payload, signature) =>
    if payload = "" ∨ signature = "" ∨ signature.toList.contains '.' then .error .malformed
    else .ok (payload, signature)

/-- The octets that a part of a token stands for. -/
def decodePart (name text : String) : Except StateError Bytes :=
  match Base64.decode? Base64.urlSafe .upToCanonical text with
  | some octets => .ok octets
  | none => .error (.encoding name)

/-- The octets a token vouches for, its signature checked. -/
def authentic (s : StateSigner) (token : String) : Except StateError Bytes := do
  let (payload, signature) ← parts token
  let octets ← decodePart "payload" payload
  let signature ← decodePart "signature" signature
  if signature = s.code octets then pure octets else throw .badSignature

/-- The payload that octets hold. -/
def readPayload (octets : Bytes) : Except StateError StatePayload :=
  match (Json.read? octets).bind StatePayload.ofJson? with
  | some p => .ok p
  | none => .error (.payload "not a document of the expected form")

/-- Refuses a payload of the future and one that is too old. -/
def checkAge (p : StatePayload) (now : Int) : Except StateError StatePayload :=
  let age := now - p.timestamp
  if age < 0 then .error .futureTimestamp
  else if maxAge < age then .error (.expired age)
  else .ok p

/-- The payload of a token that is good at the given time. -/
def verify (s : StateSigner) (token : String) (now : Int) : Except StateError StatePayload := do
  let octets ← s.authentic token
  let payload ← readPayload octets
  checkAge payload now

end StateSigner

end CredentialBroker
