import CredentialBroker.Credential.Error
import CredentialBroker.Effect.Action
import CredentialBroker.Json.Writer

namespace CredentialBroker

/-!
# Credentials in secrets

Credentials are kept under the keys of secrets.  Writers may run side by side, so each write
reads the secret, merges its entries in and writes the result back under the version it read; a
write that comes too late is tried again from the start.
-/

/-- A value read back from a secret. -/
structure CredentialValue where
  /-- The value itself, never to be logged. -/
  plain : String
deriving DecidableEq

namespace CredentialValue

/-- The value with the given octets. -/
def ofBytes (bs : Bytes) : Except CredentialError CredentialValue :=
  match Text.ofUtf8? bs with
  | some s => .ok ⟨s⟩
  | none => .error (.internal "stored credential is not UTF-8")

/-- The number of octets of the value. -/
def size (v : CredentialValue) : Nat := Text.octetCount v.plain

/-- The value described for logs: its size. -/
def description (v : CredentialValue) : String :=
  "CredentialValue([REDACTED, " ++ toString v.size ++ " bytes])"

end CredentialValue

/-! ### Writing -/

/-- Who writes secrets and how often a write is tried. -/
structure CredentialStore where
  /-- As whom the secrets are read and written. -/
  client : Client
  /-- The policy of writes. -/
  policy : RetryPolicy := .usual

/-- What a write adds to a secret. -/
structure SecretChange where
  /-- The entries, by key. -/
  entries : SortedMap String Bytes
  /-- The labels. -/
  labels : SortedMap String String
  /-- The owner of a secret that has none. -/
  owner : OwnerReference

namespace SecretChange

/-- The secret with the change merged in. -/
def applyTo (c : SecretChange) (s : Secret) : Secret :=
  { s with
    data := s.data.union c.entries
    labels := s.labels.union c.labels
    owners := if s.owners.isEmpty then [c.owner] else s.owners }

/-- The secret that holds the change alone. -/
def fresh (c : SecretChange) (ref : ObjectRef) : Secret :=
  ⟨ref, c.labels, c.entries, [c.owner], none⟩

end SecretChange

namespace CredentialStore

/-- One attempt at a write. -/
def tryWrite (st : CredentialStore) (ref : ObjectRef) (c : SecretChange) :
    Action ClusterError Unit := do
  match ← (Action.cluster st.client (.getSecret ref)).outcome with
  | .ok secret => discard (Action.cluster st.client (.updateSecret (c.applyTo secret)))
  | .error e =>
    if e.isNotFound then discard (Action.cluster st.client (.createSecret (c.fresh ref)))
    else throw e

/-- Whether a write that met the error may succeed from the start. -/
def isLate (e : ClusterError) : Bool := e.isConflict || e.isAlreadyExists

/-- What is said of a write stopped within a pause. -/
def cancelled (ref : ObjectRef) (attempts : Nat) : ClusterError :=
  .conflict "Secret" (ref.text ++ " (cancelled after " ++ toString attempts ++ " attempts)")

/-- Merges entries and labels into a secret, which is made if there is none. -/
def write (st : CredentialStore) (ref : ObjectRef) (c : SecretChange) :
    Action CredentialError Unit :=
  (Action.retried st.policy isLate (cancelled ref) fun _ => st.tryWrite ref c).mapError
    ClusterError.toCredential

/-- Writes one key of a secret. -/
def writeKey (st : CredentialStore) (ref : ObjectRef) (key : String) (value : Bytes)
    (owner : OwnerReference) : Action CredentialError Unit :=
  st.write ref ⟨SortedMap.ofList [(key, value)], ∅, owner⟩

/-- The value under a key of a secret. -/
def read (st : CredentialStore) (ref : ObjectRef) (key : String) :
    Action CredentialError CredentialValue := do
  let secret ← (Action.cluster st.client (.getSecret ref)).mapError ClusterError.toCredential
  match secret.data.get? key with
  | none => throw (.notFound ("key " ++ key ++ " in secret " ++ ref.text))
  | some octets => Action.ofExcept (CredentialValue.ofBytes octets)

end CredentialStore

end CredentialBroker
