import CredentialBroker.Cluster.Identity
import CredentialBroker.Credential.Error
import CredentialBroker.Effect.Action

namespace CredentialBroker

/-!
# Checking who a job is

A job proves which session it belongs to with the token issued for that session.  Every check
that does not positively confirm the tie refuses the token.
-/

/-- A job that proved which session it belongs to. -/
structure VerifiedRunner where
  /-- The session. -/
  session : ObjectRef
  /-- The identity of the session. -/
  identity : String
  /-- The user for whom the session runs. -/
  userId : String
deriving DecidableEq

/-- A call to the cluster by the platform itself. -/
def askPlatform (call : Call) : Action CredentialError call.Reply :=
  (Action.cluster .platform call).mapError ClusterError.toCredential

/-- The identity a review vouches for, in the namespace of a session. -/
def reviewedIdentity (session : ObjectRef) (review : TokenReview) :
    Except CredentialError String :=
  if review.authenticated = false ∨ review.error.isSome then
    .error (.unauthenticated "token review rejected token")
  else
    match Identity.subject? (review.username.getD "") with
    | none => .error (.forbidden "subject is not a service account")
    | some account =>
      if account.ns ≠ session.ns then
        .error (.forbidden ("namespace mismatch: " ++ account.ns ++ " != " ++ session.ns))
      else .ok account.name

/-- The user of a session whose recorded identity is the given one. -/
def sessionUser (identity : String) (s : Session) : Except CredentialError String :=
  match s.identityName? with
  | none => .error (.forbidden "session has no recorded identity")
  | some expected =>
    if expected ≠ identity then
      .error (.forbidden ("identity mismatch: " ++ identity ++ " != " ++ expected))
    else
      match s.userId? with
      | none => .error (.invalidInput "session missing user context")
      | some user => .ok user

/-- Checks that a token belongs to the identity recorded on a session. -/
def verifyRunner (token : String) (session : ObjectRef) :
    Action CredentialError VerifiedRunner := do
  let token := Text.trim token
  if token = "" then throw (.unauthenticated "missing bearer token")
  let review ← askPlatform (.reviewToken token)
  let identity ← Action.ofExcept (reviewedIdentity session review)
  let stored ← askPlatform (.getSession session)
  let user ← Action.ofExcept (sessionUser identity stored)
  pure ⟨session, identity, user⟩

end CredentialBroker
