import CredentialBroker.Cluster.Error
import CredentialBroker.OAuth.Error

namespace CredentialBroker

/-!
# Failures of credential operations

Every operation of the broker fails in one of eight ways.  The detail is for logs; what a caller
is shown is `publicMessage`, which gives nothing away where security is concerned.
-/

/-- Why an operation of the broker failed, with a detail for logs. -/
inductive CredentialError where
  /-- The caller did not prove who they are. -/
  | unauthenticated (detail : String)
  /-- The caller may not do this. -/
  | forbidden (detail : String)
  /-- Something asked for does not exist. -/
  | notFound (detail : String)
  /-- Someone else changed the same thing. -/
  | conflict (detail : String)
  /-- A service that this one relies on did not answer. -/
  | unavailable (detail : String)
  /-- A token was forged or used at the wrong time. -/
  | tamper (detail : String)
  /-- The request makes no sense. -/
  | invalidInput (detail : String)
  /-- The fault is here. -/
  | internal (detail : String)
deriving DecidableEq

namespace CredentialError

/-- The failure in words, for logs. -/
def message : CredentialError → String
  | .unauthenticated detail => "Unauthenticated: " ++ detail
  | .forbidden detail => "Forbidden: " ++ detail
  | .notFound detail => "Not found: " ++ detail
  | .conflict detail => "Conflict: " ++ detail
  | .unavailable detail => "Upstream unavailable: " ++ detail
  | .tamper detail => "Tamper or replay detected: " ++ detail
  | .invalidInput detail => "Invalid input: " ++ detail
  | .internal detail => "Internal error: " ++ detail

/-- The name of the way an operation failed. -/
def label : CredentialError → String
  | .unauthenticated _ => "Unauthenticated"
  | .forbidden _ => "Forbidden"
  | .notFound _ => "NotFound"
  | .conflict _ => "Conflict"
  | .unavailable _ => "UpstreamUnavailable"
  | .tamper _ => "Tamper"
  | .invalidInput _ => "InvalidInput"
  | .internal _ => "Internal"

/-- The status of the answer to a request that failed so. -/
def status : CredentialError → Nat
  | .unauthenticated _ => 401
  | .forbidden _ | .tamper _ => 403
  | .notFound _ => 404
  | .conflict _ => 409
  | .unavailable _ => 502
  | .invalidInput _ => 400
  | .internal _ => 500

/-- What a caller is shown. -/
def publicMessage : CredentialError → String
  | .unauthenticated _ => "unauthenticated"
  | .forbidden _ => "forbidden"
  | .tamper _ => "invalid or expired state"
  | .notFound what => what ++ " not found"
  | .conflict _ => "conflict, retry the request"
  | .unavailable _ => "upstream unavailable, retry later"
  | .invalidInput detail => detail
  | .internal _ => "internal error"

/-- Whether the same request may succeed later. -/
def isRetryable : CredentialError → Bool
  | .conflict _ | .unavailable _ => true
  | _ => false

end CredentialError

/-- A failure of the cluster as one of an operation. -/
def ClusterError.toCredential (e : ClusterError) : CredentialError :=
  match e with
  | .notFound kind name => .notFound (kind ++ " " ++ name)
  | .conflict .. | .alreadyExists .. => .conflict e.message
  | .forbidden reason => .forbidden reason
  | .unauthorized => .unauthenticated e.message
  | .timeout .. | .transport _ => .unavailable e.message
  | .api status _ => if 500 ≤ status then .unavailable e.message else .internal e.message

/-- The refusal of a state token as a failure of an operation. -/
def StateError.toCredential (e : StateError) : CredentialError :=
  match e with
  | .notConfigured => .internal e.message
  | _ => .tamper e.message

/-- A failure of a provider as one of an operation. -/
def OAuthError.toCredential (e : OAuthError) : CredentialError :=
  match e with
  | .unsupportedProvider _ => .invalidInput e.message
  | _ => .unavailable e.message

end CredentialBroker
