import CredentialBroker.Cluster.Snapshot

namespace CredentialBroker.Script

/-!
# Calls written down

A script names calls to the cluster and failures to be met, as documents.  `call` reads a call,
`ofReply` writes the answer to one, and `fault?` reads a failure.
-/

/-- Why a document is no call. -/
inductive ScriptFault where
  /-- The operation is not known. -/
  | unknownCall
  /-- The session is none. -/
  | badSession
  /-- One of the rules is none. -/
  | badRule
deriving DecidableEq

/-- The session in a document. -/
def session? (j : Json) : Option Session := (j.lastMember? "session").bind Session.ofJson?

/-- A call about the session in a document. -/
def sessionCall (j : Json) (f : Session → Call) : Except ScriptFault Call :=
  match session? j with
  | some s => .ok (f s)
  | none => .error .badSession

/-- A call about the role in a document. -/
def roleCall (j : Json) (f : Role → Call) : Except ScriptFault Call :=
  match Snapshot.role? j with
  | some r => .ok (f r)
  | none => .error .badRule

/-- The way of removal in a document. -/
def propagation (j : Json) : Propagation :=
  if j.textAt "propagation" = Propagation.background.text then .background else .foreground

/-- The call of an operation about what a document describes. -/
def callOf (j : Json) (op : Operation) : Except ScriptFault Call :=
  let r := Snapshot.ref j
  match op with
  | .getSession => .ok (.getSession r)
  | .patchSessionAnnotations => .ok (.patchSessionAnnotations r (j.textMapAt "annotations"))
  | .updateSession => sessionCall j .updateSession
  | .updateSessionStatus => sessionCall j .updateSessionStatus
  | .getServiceAccount => .ok (.getServiceAccount r)
  | .createServiceAccount => .ok (.createServiceAccount (Snapshot.account j))
  | .patchServiceAccountAnnotations =>
    .ok (.patchServiceAccountAnnotations r (j.textMapAt "annotations"))
  | .createToken => .ok (.createToken r (.ofSeconds (UInt64.ofNat (j.natAt "ttl" 3600))))
  | .getRole => .ok (.getRole r)
  | .createRole => roleCall j .createRole
  | .updateRole => roleCall j .updateRole
  | .getRoleBinding => .ok (.getRoleBinding r)
  | .createRoleBinding => .ok (.createRoleBinding (Snapshot.binding j))
  | .updateRoleBinding => .ok (.updateRoleBinding (Snapshot.binding j))
  | .getSecret => .ok (.getSecret r)
  | .createSecret => .ok (.createSecret (Snapshot.secret j))
  | .updateSecret => .ok (.updateSecret (Snapshot.secret j))
  | .reviewToken => .ok (.reviewToken (j.textAt "token"))
  | .checkAccess => .ok (.checkAccess (Snapshot.check (j.objectAt "check")))
  | .deleteJob => .ok (.deleteJob r (propagation j))
  | .deletePods => .ok (.deletePods r.ns (j.textAt "selector"))

/-- The call in a document, which names the operation. -/
def call (j : Json) : Except ScriptFault Call :=
  match Operation.ofName? (j.textAt "call") with
  | some op => callOf j op
  | none => .error .unknownCall

/-- The document of the answer to a call. -/
def ofReply : (call : Call) → call.Reply → Json
  | .getSession _, s | .patchSessionAnnotations .., s | .updateSession _, s
  | .updateSessionStatus _, s => Session.toJson s
  | .getServiceAccount _, a | .createServiceAccount _, a => Snapshot.ofAccount a
  | .patchServiceAccountAnnotations .., _ => .null
  | .createToken .., t => .obj [("token", .str t.token), ("expires_at", .str t.expiresAt.text)]
  | .getRole _, r | .createRole _, r | .updateRole _, r => Snapshot.ofRole r
  | .getRoleBinding _, b | .createRoleBinding _, b | .updateRoleBinding _, b =>
    Snapshot.ofBinding b
  | .getSecret _, s | .createSecret _, s | .updateSecret _, s => Snapshot.ofSecret s
  | .reviewToken _, r =>
    .obj [("authenticated", .bool r.authenticated), ("username", Json.textOrNull r.username),
      ("error", Json.textOrNull r.error)]
  | .checkAccess _, d => .obj [("allowed", .bool d.allowed), ("reason", .str d.reason)]
  | .deleteJob .., _ | .deletePods .., _ => .null

/-- The failure of the cluster in a document, which names its kind. -/
def fault? (j : Json) : Option ClusterError :=
  let kind := j.textAt "object"
  let name := j.textAt "name"
  match j.textAt "kind" with
  | "NotFound" => some (.notFound kind name)
  | "AlreadyExists" => some (.alreadyExists kind name)
  | "Conflict" => some (.conflict kind name)
  | "Forbidden" => some (.forbidden (j.textAt "reason"))
  | "Unauthorized" => some .unauthorized
  | "Timeout" =>
    some (.timeout (j.textAt "operation") (.ofMillis (UInt64.ofNat (j.natAt "after_ms" 0))))
  | "Transport" => some (.transport (.request (j.textAt "message")))
  | "Api" => some (.api (j.natAt "status" 0) (j.textAt "message"))
  | _ => none

end CredentialBroker.Script
