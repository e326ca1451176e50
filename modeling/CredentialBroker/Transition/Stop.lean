import CredentialBroker.Transition.Status

namespace CredentialBroker

/-!
# Stopping a session

Stopping removes the job of a session and its pods, makes the session wait for input, and writes
the phase Stopped.  A stopped session stays as it is, and one that ended otherwise cannot be
stopped.  Failures of the removal do not matter.
-/

/-- What a stop did. -/
inductive StopOutcome where
  /-- The session was stopped. -/
  | stopped (session : Session)
  /-- The session was stopped before. -/
  | alreadyStopped (session : Session)
  /-- The session went away meanwhile. -/
  | gone

namespace Transition

/-- The remark on a session that was stopped. -/
def stopMessage : String := "Session stopped by user"

/-- The session as it is after a stop. -/
def stopped (now : Timestamp) (s : Session) : Session :=
  let s := s.withPhase .stopped stopMessage
  { s with status := { s.status with completionTime := some now.secondText } }

/-- Removes the job of a session and the pods of the job and of the session. -/
def removeJob (who : Client) (ref : ObjectRef) (job : String) : Action CredentialError Unit := do
  attempt who (.deleteJob ⟨ref.ns, job⟩ .foreground)
  attempt who (.deletePods ref.ns ("job-name=" ++ job))
  attempt who (.deletePods ref.ns ("agentic-session=" ++ ref.name))

/-- Makes a session wait for input: the session as stored, or as it was if that failed, with the
wish set. -/
def ensureInteractive (who : Client) (session : Session) : Action CredentialError Session := do
  if session.isInteractive then pure session
  else
    let session := session.withInteractive true
    match ← (Action.cluster who (.updateSession session)).outcome with
    | .ok updated => pure updated
    | .error _ => pure session

/-- Stops a session that is not over. -/
def halt (policy : RetryPolicy) (who : Client) (ref : ObjectRef) (session : Session) :
    Action CredentialError StopOutcome := do
  removeJob who ref session.jobName
  let session ← ensureInteractive who session
  let now ← Action.clock
  match ← (writeStatus policy who ref session (stopped now)).outcome with
  | .ok updated => pure (.stopped updated)
  | .error e => if e.isNotFound then pure .gone else throw e.toCredential

/-- Stops a session as a client. -/
def stop (policy : RetryPolicy) (who : Client) (ref : ObjectRef) :
    Action CredentialError StopOutcome := do
  let session ← ask who (.getSession ref)
  match session.phase? with
  | some .stopped => pure (.alreadyStopped session)
  | some phase =>
    if phase.isTerminal then
      throw (.invalidInput ("cannot stop session in " ++ phase.text ++ " state"))
    else halt policy who ref session
  | none => halt policy who ref session

end Transition

end CredentialBroker
