import CredentialBroker.Credential.Error
import CredentialBroker.Effect.Action

namespace CredentialBroker.Transition

/-!
# Writing the status of a session

A transition changes the status of the session it has read.  When someone else changed the session
meanwhile, it is read again and the change is made to what is read then.  There is no lock: each
write carries the version of its read.
-/

/-- What is said of a status write stopped within a pause. -/
def cancelled (ref : ObjectRef) (attempts : Nat) : ClusterError :=
  .conflict "AgenticSession" (ref.text ++ " (cancelled after " ++ toString attempts ++ " attempts)")

/-- One attempt to write a changed status: the first from the session at hand, a later one from
the session as it is read then. -/
def tryStatus (who : Client) (ref : ObjectRef) (current : Session) (change : Session → Session)
    (attempt : Nat) : Action ClusterError Session := do
  let session ← if attempt = 0 then pure current else Action.cluster who (.getSession ref)
  Action.cluster who (.updateSessionStatus (change session))

/-- Writes a changed status, again after each conflict as the policy has it. -/
def writeStatus (policy : RetryPolicy) (who : Client) (ref : ObjectRef) (current : Session)
    (change : Session → Session) : Action ClusterError Session :=
  Action.retried policy ClusterError.isConflict (cancelled ref) (tryStatus who ref current change)

/-- A call made as the client that drives the transition. -/
def ask (who : Client) (call : Call) : Action CredentialError call.Reply :=
  (Action.cluster who call).mapError ClusterError.toCredential

/-- A call whose failure does not matter. -/
def attempt {ε : Type} (who : Client) (call : Call) : Action ε Unit :=
  discard (Action.outcome (Action.cluster who call))

end CredentialBroker.Transition
