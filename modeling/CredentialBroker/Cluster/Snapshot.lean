import CredentialBroker.Cluster.Objects
import CredentialBroker.Codec.Percent
import CredentialBroker.Json.Lenient
import CredentialBroker.Json.Writer
import CredentialBroker.Session.Document

namespace CredentialBroker

/-!
# Snapshots of a cluster

A snapshot is a flat document that shows an object of the cluster, or all of them, to someone who
inspects or arranges a cluster held in memory.  Unlike the documents of the cluster's interface it
shows the octets of secrets in the clear where they are a text, and as hexadecimal digits where
they are not.  Reading takes empty values for what is left out.
-/

namespace Snapshot

/-! ### Parts -/

/-- The octets that hexadecimal digits stand for, two digits for each; another octet counts as the
digit 0. -/
def hexOctets : Bytes → Bytes
  | a :: b :: rest =>
    UInt8.ofNat ((Percent.hexValue? a).getD 0 * 16 + (Percent.hexValue? b).getD 0) ::
      hexOctets rest
  | _ => []

/-- The octets in a snapshot. -/
def octets (j : Json) : Bytes :=
  match j with
  | .str s => Text.utf8 s
  | _ => hexOctets (Text.utf8 (j.textAt "hex"))

/-- The octets in a member. -/
def octetsAt (j : Json) (key : String) : Bytes := ((j.lastMember? key).map octets).getD []

/-- The octets by name in a member. -/
def octetMapAt (j : Json) (key : String) : SortedMap String Bytes :=
  SortedMap.ofList ((j.membersAt key).map fun m => (m.1, octets m.2))

/-- A snapshot of octets. -/
def ofOctets (bs : Bytes) : Json :=
  match Text.ofUtf8? bs with
  | some s => .str s
  | none =>
    let digits := bs.flatMap fun b => [Json.hexChar (b.toNat / 16), Json.hexChar (b.toNat % 16)]
    .obj [("hex", .str (String.ofList digits))]

/-- The address in a snapshot. -/
def ref (j : Json) : ObjectRef := ⟨j.textAt "ns", j.textAt "name"⟩

/-- The members of an address. -/
def ofRef (r : ObjectRef) : List (String × Json) := [("ns", .str r.ns), ("name", .str r.name)]

/-- The owner in a snapshot. -/
def owner (j : Json) : OwnerReference :=
  ⟨j.textAt "apiVersion", j.textAt "kind", j.textAt "name", j.textAt "uid", j.flagAt? "controller"⟩

/-- The owners in a snapshot of an object. -/
def owners (j : Json) : List OwnerReference := (j.itemsAt "owners").map owner

/-- The members of an object's owners and version. -/
def ofKept (owners : List OwnerReference) (version : Option String) : List (String × Json) :=
  [("owners", .arr (owners.map OwnerReference.toJson)),
   ("resource_version", Json.textOrNull version)]

/-- The subject in a snapshot. -/
def subject (j : Json) : Subject := ⟨j.textAt "kind", j.textAt "name", j.textAt? "namespace"⟩

/-- A snapshot of a subject. -/
def ofSubject (s : Subject) : Json :=
  .obj ([("kind", .str s.kind), ("name", .str s.name)] ++
    Json.given "namespace" (s.ns.map .str))

/-- The question about access in a snapshot. -/
def check (j : Json) : AccessCheck :=
  ⟨j.textAt "group", j.textAt "resource", j.textAt "verb", j.textAt "ns"⟩

/-- The rules among documents. -/
def rules? (items : List Json) : Option (List Rule) := items.mapM Rule.ofJson?

/-- The list of a kind of object, left out when there are none. -/
def listing (key : String) (items : List Json) : List (String × Json) :=
  if items.isEmpty then [] else [(key, .arr items)]

/-! ### Objects -/

/-- The machine identity in a snapshot. -/
def account (j : Json) : ServiceAccount :=
  ⟨ref j, j.textMapAt "labels", j.textMapAt "annotations", owners j⟩

/-- A snapshot of a machine identity. -/
def ofAccount (a : ServiceAccount) : Json :=
  .obj (ofRef a.ref ++ [("labels", Json.ofTexts a.labels),
    ("annotations", Json.ofTexts a.annotations),
    ("owners", .arr (a.owners.map OwnerReference.toJson))])

/-- The role in a snapshot. -/
def role? (j : Json) : Option Role := do
  let rules ← rules? (j.itemsAt "rules")
  pure ⟨ref j, rules, owners j, j.textAt? "resource_version"⟩

/-- A snapshot of a role. -/
def ofRole (r : Role) : Json :=
  .obj (ofRef r.ref ++ [("rules", .arr (r.rules.map Rule.toJson))] ++
    ofKept r.owners r.resourceVersion)

/-- The role binding in a snapshot. -/
def binding (j : Json) : RoleBinding :=
  ⟨ref j, j.textAt "role_name", (j.itemsAt "subjects").map subject, owners j,
    j.textAt? "resource_version"⟩

/-- A snapshot of a role binding. -/
def ofBinding (b : RoleBinding) : Json :=
  .obj (ofRef b.ref ++ [("role_name", .str b.roleName),
    ("subjects", .arr (b.subjects.map ofSubject))] ++ ofKept b.owners b.resourceVersion)

/-- The secret in a snapshot. -/
def secret (j : Json) : Secret :=
  ⟨ref j, j.textMapAt "labels", octetMapAt j "data", owners j, j.textAt? "resource_version"⟩

/-- A snapshot of a secret. -/
def ofSecret (s : Secret) : Json :=
  .obj (ofRef s.ref ++ [("labels", Json.ofTexts s.labels),
    ("data", .obj (s.data.entries.map fun e => (e.1, ofOctets e.2)))] ++
    ofKept s.owners s.resourceVersion)

/-- A snapshot of a pod. -/
def ofPod (p : Pod) : Json := .arr [.str p.ref.ns, .str p.ref.name, Json.ofTexts p.labels]

/-- A snapshot of all objects of a cluster. -/
def ofObjects (o : Objects) : Json :=
  .obj (listing "sessions" (o.sessions.values.map Session.toJson) ++
    listing "service_accounts" (o.accounts.values.map ofAccount) ++
    listing "roles" (o.roles.values.map ofRole) ++
    listing "role_bindings" (o.bindings.values.map ofBinding) ++
    listing "secrets" (o.secrets.values.map ofSecret) ++
    listing "jobs" (o.jobs.keys.map fun r => .arr [.str r.ns, .str r.name]) ++
    listing "pods" (o.pods.map ofPod))

end Snapshot

end CredentialBroker
