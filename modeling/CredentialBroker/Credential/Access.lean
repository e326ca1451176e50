import CredentialBroker.Credential.Bearer
import CredentialBroker.Credential.Error
import CredentialBroker.Effect.Action

namespace CredentialBroker

/-!
# Acting as the caller

What a user asks for is done with the bearer token the user presents and with no other
credential; a request without a token has no client.  A client can be asked what it may do.
-/

/-- The client of a request: the holder of the token it presents. -/
def Client.ofCaller? (authorization forwarded : Option String) : Option Client :=
  (Bearer.ofCaller? authorization forwarded).map .bearer

namespace AccessCheck

/-- The question whether a verb may be applied to the secrets of a namespace. -/
def secrets (ns verb : String) : AccessCheck := ⟨"", "secrets", verb, ns⟩

/-- Asks the cluster what a client may do. -/
def ask (c : AccessCheck) (who : Client) : Action ClusterError AccessDecision :=
  Action.cluster who (.checkAccess c)

/-- Refuses a client that may not do what is asked for. -/
def ensure (c : AccessCheck) (who : Client) : Action CredentialError Unit := do
  let decision ← (c.ask who).mapError ClusterError.toCredential
  if decision.allowed then pure ()
  else throw (.forbidden
    (c.verb ++ " " ++ c.resource ++ " in " ++ c.ns ++ " denied: " ++ decision.reason))

end AccessCheck

end CredentialBroker
