import CredentialBroker.Credential.Bearer
import CredentialBroker.Effect.Action

namespace CredentialBroker.Usage

/-!
# Noting the use of access keys

Some identities are access keys that users hold for long.  Each use of one is noted on it, beside
the request and without effect on it: the identity is the one the token claims to be for, and
whatever goes wrong is left aside.
-/

/-- The value of the label `app` on identities that are access keys. -/
def accessKeyLabel : String := "ambient-access-key"

/-- The annotation with the time of the last use. -/
def lastUsedKey : String := "ambient-code.io/last-used-at"

/-- The identity a token claims to be for. -/
def target? (token : String) : Option ObjectRef :=
  (Bearer.claimedSubject? token).bind Identity.subject?

/-- Notes the use of an identity if it is an access key. -/
def note (account : ObjectRef) : Action ClusterError Unit := do
  let found ← Action.cluster .platform (.getServiceAccount account)
  if found.labels.get? "app" = some accessKeyLabel then
    let now ← Action.clock
    Action.cluster .platform (.patchServiceAccountAnnotations account
      (SortedMap.ofList [(lastUsedKey, now.secondText)]))

/-- What is done beside a request that presents a token. -/
def program (enabled : Bool) (token : String) : Program demands Unit :=
  match enabled, target? token with
  | true, some account => discard (note account).run
  | _, _ => pure ()

end CredentialBroker.Usage
