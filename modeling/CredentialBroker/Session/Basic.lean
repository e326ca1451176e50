import CredentialBroker.Cluster.Owner
import CredentialBroker.Cluster.Ref
import CredentialBroker.Session.Phase
import CredentialBroker.Text.Blank

namespace CredentialBroker

/-!
# Sessions

A session is a custom resource that an external reconciler owns.  This library names the fields
it reads and writes; every other field of the metadata, the specification, the user context and
the status is kept in `extra` and goes back as it came.
-/

/-- What the cluster records about a session as an object. -/
structure Metadata where
  /-- The name. -/
  name : String
  /-- The namespace. -/
  ns : String
  /-- The identifier the cluster gave to the session. -/
  uid : String
  /-- The version of the stored object, when known. -/
  resourceVersion : Option String
  /-- The labels. -/
  labels : SortedMap String String
  /-- The annotations. -/
  annotations : SortedMap String String
  /-- The fields without a name here. -/
  extra : SortedMap String Json

/-- The user on whose behalf a session runs. -/
structure UserContext where
  /-- The identifier of the user, when given. -/
  userId : Option String
  /-- The fields without a name here. -/
  extra : SortedMap String Json

/-- What is asked of a session. -/
structure SessionSpec where
  /-- Whether the session waits for input, when said. -/
  interactive : Option Bool
  /-- The user of the session, when given. -/
  userContext : Option UserContext
  /-- The fields without a name here. -/
  extra : SortedMap String Json
deriving Inhabited

/-- What is reported of a session. -/
structure SessionStatus where
  /-- The word for the phase. -/
  phase : Option String
  /-- A remark on the phase. -/
  message : Option String
  /-- The job behind the session. -/
  jobName : Option String
  /-- When the session was started. -/
  startTime : Option String
  /-- When the session was over. -/
  completionTime : Option String
  /-- The fields without a name here. -/
  extra : SortedMap String Json
deriving Inhabited

/-- A session. -/
structure Session where
  /-- The API group and version. -/
  apiVersion : String
  /-- The kind of the resource. -/
  kind : String
  /-- The session as an object. -/
  metadata : Metadata
  /-- What is asked of it. -/
  spec : SessionSpec
  /-- What is reported of it. -/
  status : SessionStatus

namespace Session

/-! ### Annotations -/

/-- The annotation that names the machine identity of a session. -/
def identityKey : String := "ambient-code.io/runner-sa"

/-- The annotation that names the secret with the credential of a session. -/
def credentialSecretKey : String := "ambient-code.io/runner-token-secret"

/-- The annotation that names the session which a continued session follows. -/
def parentKey : String := "vteam.ambient-code/parent-session-id"

/-- The text of an annotation, character for character; an empty one counts as none. -/
def annotation? (s : Session) (key : String) : Option String :=
  (s.metadata.annotations.get? key).filter (· ≠ "")

/-- The identity recorded by the last provisioning that succeeded. -/
def identityName? (s : Session) : Option String := s.annotation? identityKey

/-- The secret recorded by the last provisioning that succeeded. -/
def credentialSecret? (s : Session) : Option String := s.annotation? credentialSecretKey

/-- The session this one continues. -/
def parent? (s : Session) : Option String := s.annotation? parentKey

/-! ### Reading -/

/-- The address of a session. -/
def ref (s : Session) : ObjectRef := ⟨s.metadata.ns, s.metadata.name⟩

/-- The owner of a session without the blanks around the name; a blank name counts as none. -/
def userId? (s : Session) : Option String :=
  ((s.spec.userContext.bind (·.userId)).map Text.trim).filter (· ≠ "")

/-- The phase, when the status has one and its word is known. -/
def phase? (s : Session) : Option Phase := s.status.phase.bind Phase.ofText?

/-- Whether the session is over. -/
def isTerminal (s : Session) : Bool := s.phase?.any Phase.isTerminal

theorem phase?_congr {s t : Session} (h : s.status = t.status) : s.phase? = t.phase? := by
  unfold phase?
  rw [h]

theorem isTerminal_congr {s t : Session} (h : s.status = t.status) :
    s.isTerminal = t.isTerminal := by
  unfold isTerminal
  rw [phase?_congr h]

/-- Whether the session waits for input. -/
def isInteractive (s : Session) : Bool := s.spec.interactive.getD false

/-- The job behind the session: the one recorded, or the one named after the session. -/
def jobName (s : Session) : String :=
  ((s.status.jobName.map Text.trim).filter (· ≠ "")).getD (s.metadata.name ++ "-job")

/-- The link for objects that live no longer than the session. -/
def ownerReference (s : Session) : OwnerReference :=
  ⟨s.apiVersion, s.kind, s.metadata.name, s.metadata.uid, some true⟩

/-! ### Edits -/

/-- The session with an annotation that names the session it continues. -/
def withParent (s : Session) (parent : String) : Session :=
  { s with metadata := { s.metadata with
      annotations := s.metadata.annotations.insert parentKey parent } }

/-- The session with the wish for input set. -/
def withInteractive (s : Session) (interactive : Bool) : Session :=
  { s with spec := { s.spec with interactive := some interactive } }

/-- The session with a phase and a remark on it. -/
def withPhase (s : Session) (phase : Phase) (message : String) : Session :=
  { s with status := { s.status with phase := some phase.text, message := some message } }

end Session

end CredentialBroker
