import CredentialBroker.Credential.Issue
import CredentialBroker.Transition.Status

namespace CredentialBroker

/-!
# Starting a session

Starting brings a session back to the phase Pending.  A session that is over is continued: it
waits for input from now on, notes which session it continues, gets a new credential, and loses
the job it had.  All is done as the caller, except that the platform issues the credential.
-/

/-- What a start did. -/
structure StartOutcome where
  /-- The session as stored in the end. -/
  session : Session
  /-- Whether the session was over and has been continued. -/
  continuation : Bool
  /-- The credential a continuation got. -/
  credential : Option IssuedCredential

namespace Transition

/-- The remark on a session that was started. -/
def restartMessage : String := "Session restart requested"

/-- The session as it is after a start. -/
def started (now : Timestamp) (s : Session) : Session :=
  let s := s.withPhase .pending restartMessage
  { s with status := { s.status with completionTime := none, startTime := some now.secondText } }

/-- The session marked as one that continues `parent` and waits for input. -/
def continued (parent : String) (s : Session) : Session :=
  let s := s.withParent parent
  if s.isInteractive then s else s.withInteractive true

/-- Prepares the continuation of a session that is over: the session as read in the end, and the
credential it got. -/
def resume (issuer : Issuer) (who : Client) (ref : ObjectRef) (session : Session) :
    Action CredentialError (Session × Option IssuedCredential) := do
  let session := continued ref.name session
  discard (ask who (.updateSession session))
  let credential ← issuer.issue? ref
  if credential.isSome then
    attempt who (.deleteJob ⟨ref.ns, session.jobName⟩ .background)
  let session ← ask who (.getSession ref)
  pure (session, credential)

/-- Starts a session as a client. -/
def start (policy : RetryPolicy) (issuer : Issuer) (who : Client) (ref : ObjectRef) :
    Action CredentialError StartOutcome := do
  let session ← ask who (.getSession ref)
  let continuation := session.isTerminal
  let (session, credential) ←
    if continuation then resume issuer who ref session else pure (session, none)
  let now ← Action.clock
  let session ← (writeStatus policy who ref session (started now)).mapError
    ClusterError.toCredential
  pure ⟨session, continuation, credential⟩

end Transition

end CredentialBroker
