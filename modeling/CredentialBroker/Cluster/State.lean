import CredentialBroker.Cluster.Objects

namespace CredentialBroker

/-!
# A cluster held in memory

`ClusterState` is a cluster as a value: its objects, the number of versions and tokens drawn so
far, failures waiting for calls, and the record of the calls made.  `ClusterState.step` makes one
call: it is recorded, then a failure waiting for its operation is used up, then the caller has to
be known and allowed, and only then the call takes effect.
-/

/-- One call that was made. -/
structure CallRecord where
  /-- The user it was made as. -/
  caller : String
  /-- The operation. -/
  operation : Operation
  /-- What it was about. -/
  target : String
deriving DecidableEq

/-- The tokens and identifiers a cluster draws, by their number. -/
structure Supply where
  /-- The bearer tokens. -/
  token : Nat → String
  /-- The identifiers of objects. -/
  uid : Nat → String

/-- A cluster. -/
structure ClusterState where
  /-- The custom resource that holds sessions. -/
  resource : SessionResource := {}
  /-- The stored objects. -/
  objects : Objects := {}
  /-- The number of versions drawn. -/
  versions : Nat := 0
  /-- The number of tokens drawn. -/
  minted : Nat := 0
  /-- The number of identifiers drawn. -/
  named : Nat := 0
  /-- Failures that calls to an operation will meet, in order. -/
  faults : List (Operation × ClusterError) := []
  /-- The calls made, oldest first. -/
  calls : List CallRecord := []

/-- The first failure waiting for an operation, and the failures left. -/
def takeFault (op : Operation) :
    List (Operation × ClusterError) → Option (ClusterError × List (Operation × ClusterError))
  | [] => none
  | f :: fs =>
    if f.1 = op then some (f.2, fs)
    else (takeFault op fs).map fun p => (p.1, f :: p.2)

/-- Whether a call draws a version even when it fails. -/
def Call.isWrite : Call → Bool
  | .patchSessionAnnotations .. | .updateSession _ | .updateSessionStatus _ | .updateRole _
  | .updateRoleBinding _ | .updateSecret _ => true
  | _ => false

/-- Whether a call draws a version when it succeeds and none when it fails. -/
def Call.isCreation : Call → Bool
  | .createRole _ | .createRoleBinding _ | .createSecret _ => true
  | _ => false

/-- Whether a call that succeeds draws a token. -/
def Call.isMinting : Call → Bool
  | .createToken .. => true
  | _ => false

namespace ClusterState

/-- The name under which calls of unknown callers are recorded. -/
def anonymous : String := "<anonymous>"

/-- Why a caller known as `user` may not make a call; nothing when it may. -/
def refusal? (s : ClusterState) (who : Client) (user : String) (call : Call) :
    Option ClusterError :=
  match who, call.access? s.resource with
  | .bearer _, some c =>
    if s.objects.permits user c then none
    else some (.forbidden (user ++ " cannot " ++ c.verb ++ " " ++ c.resource ++ " in namespace " ++
      c.ns))
  | _, _ => none

/-- What is drawn for the next call. -/
def draw (supply : Supply) (now : Timestamp) (s : ClusterState) : Draw :=
  ⟨toString (s.versions + 1), supply.token s.minted, now⟩

/-- The state with a call recorded. -/
def recorded (s : ClusterState) (who : Client) (call : Call) : ClusterState :=
  { s with calls := s.calls ++
      [⟨(s.objects.userOf? who).getD anonymous, call.operation, call.target⟩] }

/-- An admitted call takes effect. -/
def perform (supply : Supply) (now : Timestamp) (who : Client) (user : String) (call : Call)
    (s : ClusterState) : Except ClusterError call.Reply × ClusterState :=
  match s.objects.apply (s.draw supply now) who user call with
  | .error e => (.error e, { s with versions := s.versions + call.isWrite.toNat })
  | .ok (objects, reply) =>
    (.ok reply, { s with
      objects := objects
      versions := s.versions + (call.isWrite || call.isCreation).toNat
      minted := s.minted + call.isMinting.toNat })

/-- A call is made. -/
def step (supply : Supply) (now : Timestamp) (who : Client) (call : Call) (s : ClusterState) :
    Except ClusterError call.Reply × ClusterState :=
  let s := s.recorded who call
  match takeFault call.operation s.faults with
  | some (e, faults) => (.error e, { s with faults := faults })
  | none =>
    match s.objects.userOf? who with
    | none => (.error .unauthorized, s)
    | some user =>
      match s.refusal? who user call with
      | some e => (.error e, s)
      | none => s.perform supply now who user call

/-! ### Arranging a cluster -/

/-- Stores a session with a new version; an identifier, the API version and the kind are filled in
where they are empty. -/
def putSession (supply : Supply) (session : Session) (s : ClusterState) : Session × ClusterState :=
  let m := session.metadata
  let stored := { session with
    apiVersion := if session.apiVersion = "" then s.resource.apiVersion else session.apiVersion
    kind := if session.kind = "" then Objects.sessionKind else session.kind
    metadata := { m with
      uid := if m.uid = "" then supply.uid s.named else m.uid
      resourceVersion := some (toString (s.versions + 1)) } }
  (stored, { s with
    objects := { s.objects with sessions := s.objects.sessions.insert session.ref stored }
    versions := s.versions + 1
    named := s.named + (m.uid = "" : Bool).toNat })

/-- Removes a session. -/
def removeSession (ref : ObjectRef) (s : ClusterState) : ClusterState :=
  { s with objects := { s.objects with sessions := s.objects.sessions.erase ref } }

/-- Stores a machine identity. -/
def putServiceAccount (account : ServiceAccount) (s : ClusterState) : ClusterState :=
  { s with objects := { s.objects with
      accounts := s.objects.accounts.insert account.ref account } }

/-- Stores a role with a new version. -/
def putRole (role : Role) (s : ClusterState) : ClusterState :=
  let stored := { role with resourceVersion := some (toString (s.versions + 1)) }
  { s with
    objects := { s.objects with roles := s.objects.roles.insert role.ref stored }
    versions := s.versions + 1 }

/-- Stores a job. -/
def putJob (ref : ObjectRef) (s : ClusterState) : ClusterState :=
  { s with objects := { s.objects with jobs := s.objects.jobs.insert ref () } }

/-- Adds a pod. -/
def addPod (pod : Pod) (s : ClusterState) : ClusterState :=
  { s with objects := { s.objects with pods := s.objects.pods ++ [pod] } }

/-- Lets a token stand for a user. -/
def registerToken (token user : String) (s : ClusterState) : ClusterState :=
  { s with objects := { s.objects with tokens := s.objects.tokens.insert token user } }

/-- Gives a rule to a user by name. -/
def addGrant (grant : Grant) (s : ClusterState) : ClusterState :=
  { s with objects := { s.objects with grants := s.objects.grants ++ [grant] } }

/-- Lets the next call to an operation that no failure waits for yet fail. -/
def addFault (op : Operation) (e : ClusterError) (s : ClusterState) : ClusterState :=
  { s with faults := s.faults ++ [(op, e)] }

end ClusterState

end CredentialBroker
