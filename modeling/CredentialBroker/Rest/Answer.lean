import CredentialBroker.Http.Message
import CredentialBroker.Json.Reader
import CredentialBroker.Rest.Endpoint

namespace CredentialBroker.Rest

/-!
# Answers of the cluster's interface

An answer with a status of success holds a document, which is read for the call it answers;
what is missing in a review counts as a refusal.  Any other status is an error of the cluster.
-/

/-! ### Errors -/

/-- The reason and the message in the document of an error. -/
def errorOfJson? (j : Json) : Option (String × String) := do
  match ← j.fields? ["reason", "message"] with
  | [reason, message] =>
    let reason ← Json.defaulted "" Json.text? reason
    let message ← Json.defaulted "" Json.text? message
    pure (reason, message)
  | _ => none

/-- The reason and the message in the body of an error, or its first characters. -/
def errorTexts (r : Http.Response) : String × String :=
  ((Json.readText? (Text.ofUtf8Lossy r.body)).bind errorOfJson?).getD ("", r.excerpt)

/-- The error that an answer without success stands for. -/
def statusError (w : Wording) (r : Http.Response) : ClusterError :=
  let (reason, message) := errorTexts r
  match r.status with
  | 404 => .notFound w.kind w.name
  | 409 =>
    if reason = "AlreadyExists" then .alreadyExists w.kind w.name else .conflict w.kind w.name
  | 401 => .unauthorized
  | 403 => .forbidden message
  | status => .api status message

/-! ### Reviews and tokens -/

/-- The token and its end in the status of a token request. -/
def mintedOfStatus? (j : Json) : Option MintedToken := do
  match ← j.fields? ["token", "expirationTimestamp"] with
  | [token, expiresAt] =>
    let token ← Json.required Json.text? token
    let expiresAt ← Json.required Json.text? expiresAt
    let expiresAt ← Timestamp.ofText? expiresAt
    pure ⟨token, expiresAt⟩
  | _ => none

/-- The token in the answer to a token request. -/
def mintedOfJson? (j : Json) : Option MintedToken := do
  match ← j.fields? ["status"] with
  | [status] => Json.required mintedOfStatus? status
  | _ => none

/-- The user in the status of a token review. -/
def userOfJson? (j : Json) : Option (Option String) := do
  match ← j.fields? ["username"] with
  | [username] => Json.optional Json.text? username
  | _ => none

/-- What the status of a token review says; an empty error is none. -/
def reviewOfStatus? (j : Json) : Option TokenReview := do
  match ← j.fields? ["authenticated", "user", "error"] with
  | [authenticated, user, error] =>
    let authenticated ← Json.defaulted false Json.flag? authenticated
    let username ← Json.defaulted none userOfJson? user
    let error ← Json.optional Json.text? error
    pure ⟨authenticated, username, error.filter (· ≠ "")⟩
  | _ => none

/-- What the answer to a token review says; without a status, that the token is not valid. -/
def reviewOfJson? (j : Json) : Option TokenReview := do
  match ← j.fields? ["status"] with
  | [status] => Json.defaulted ⟨false, none, none⟩ reviewOfStatus? status
  | _ => none

/-- What the status of an access review says. -/
def decisionOfStatus? (j : Json) : Option AccessDecision := do
  match ← j.fields? ["allowed", "reason"] with
  | [allowed, reason] =>
    let allowed ← Json.defaulted false Json.flag? allowed
    let reason ← Json.defaulted "" Json.text? reason
    pure ⟨allowed, reason⟩
  | _ => none

/-- What the answer to an access review says; without a status, that nothing is allowed. -/
def decisionOfJson? (j : Json) : Option AccessDecision := do
  match ← j.fields? ["status"] with
  | [status] => Json.defaulted ⟨false, ""⟩ decisionOfStatus? status
  | _ => none

/-! ### Calls -/

/-- The document in an answer, read for a call. -/
def readDocument {α : Type} (w : Wording) (read : Json → Option α) (r : Http.Response) :
    Except ClusterError α :=
  match (Json.read? r.body).bind read with
  | some a => .ok a
  | none => .error (.transport (.answer w.operation "error decoding response body"))

/-- The secret in an answer. -/
def readSecret (w : Wording) (r : Http.Response) : Except ClusterError Secret := do
  let (header, data) ← readDocument w sealedSecretOfJson? r
  openSecret header data

/-- What an answer with success says to a call. -/
def readReply (r : Http.Response) : (call : Call) → Except ClusterError call.Reply
  | c@(.getSession _) | c@(.patchSessionAnnotations ..) | c@(.updateSession _)
  | c@(.updateSessionStatus _) => readDocument (wording c) Session.ofJson? r
  | c@(.getServiceAccount _) | c@(.createServiceAccount _) =>
    readDocument (wording c) accountOfJson? r
  | .patchServiceAccountAnnotations .. => .ok ()
  | c@(.createToken ..) => readDocument (wording c) mintedOfJson? r
  | c@(.getRole _) | c@(.createRole _) | c@(.updateRole _) =>
    readDocument (wording c) roleOfJson? r
  | c@(.getRoleBinding _) | c@(.createRoleBinding _) | c@(.updateRoleBinding _) =>
    readDocument (wording c) bindingOfJson? r
  | c@(.getSecret _) | c@(.createSecret _) | c@(.updateSecret _) => readSecret (wording c) r
  | c@(.reviewToken _) => readDocument (wording c) reviewOfJson? r
  | c@(.checkAccess _) => readDocument (wording c) decisionOfJson? r
  | .deleteJob .. | .deletePods .. => .ok ()

/-- What an answer says to a call. -/
def readAnswer (call : Call) (r : Http.Response) : Except ClusterError call.Reply :=
  if r.isSuccess then readReply r call else .error (statusError (wording call) r)

end CredentialBroker.Rest
