import CredentialBroker.Cluster.Error
import CredentialBroker.Cluster.Object
import CredentialBroker.Codec.Base64

namespace CredentialBroker.Rest

/-!
# Documents of objects

How identities, roles, role bindings and secrets are written for the interface of a cluster, with
members sorted by name, and read from its answers.  The octets of a secret travel in base64.
Reading what is written gives the object back.
-/

/-! ### Parts -/

/-- A subject of a role binding in a document. -/
def subjectOfJson? (j : Json) : Option Subject := do
  match ← j.fields? ["kind", "name", "namespace"] with
  | [kind, name, ns] =>
    pure {
      kind := ← Json.required Json.text? kind
      name := ← Json.required Json.text? name
      ns := ← Json.optional Json.text? ns }
  | _ => none

/-- The document of a subject. -/
def subjectToJson (s : Subject) : Json :=
  .obj ([("kind", .str s.kind), ("name", .str s.name)] ++
    Json.given "namespace" (s.ns.map .str))

/-- What the documents of all objects say. -/
structure ObjectHeader where
  /-- Where the object is. -/
  ref : ObjectRef
  /-- Its labels. -/
  labels : SortedMap String String := ∅
  /-- Its annotations. -/
  annotations : SortedMap String String := ∅
  /-- Its owners. -/
  owners : List OwnerReference
  /-- The version of the stored object, when known. -/
  resourceVersion : Option String := none
deriving DecidableEq

namespace ObjectHeader

/-- The fields of the metadata, in order. -/
def fieldNames : List String :=
  ["name", "namespace", "labels", "annotations", "ownerReferences", "resourceVersion"]

/-- The metadata in a document. -/
def ofJson? (j : Json) : Option ObjectHeader := do
  match ← j.fields? fieldNames with
  | [name, ns, labels, annotations, owners, resourceVersion] =>
    let name ← Json.required Json.text? name
    let ns ← Json.defaulted "" Json.text? ns
    pure {
      ref := ⟨ns, name⟩
      labels := ← Json.defaulted ∅ Json.textMap? labels
      annotations := ← Json.defaulted ∅ Json.textMap? annotations
      owners := ← Json.defaulted [] (Json.list? OwnerReference.ofJson?) owners
      resourceVersion := ← Json.optional Json.text? resourceVersion }
  | _ => none

/-- The document of metadata. -/
def toJson (m : ObjectHeader) : Json :=
  .obj (Json.givenTexts "annotations" m.annotations ++ Json.givenTexts "labels" m.labels ++
    [("name", .str m.ref.name), ("namespace", .str m.ref.ns)] ++
    (if m.owners.isEmpty then []
      else [("ownerReferences", .arr (m.owners.map OwnerReference.toJson))]) ++
    Json.given "resourceVersion" (m.resourceVersion.map .str))

end ObjectHeader

/-- The members of the document of an object that say what it is and where. -/
def head (kind : String) (header : ObjectHeader) : List (String × Json) :=
  [("kind", .str kind), ("metadata", header.toJson)]

/-! ### Machine identities -/

/-- The document of a machine identity. -/
def accountToJson (a : ServiceAccount) : Json :=
  .obj (("apiVersion", .str "v1") :: head "ServiceAccount"
    { ref := a.ref, labels := a.labels, annotations := a.annotations, owners := a.owners })

/-- The machine identity in a document. -/
def accountOfJson? (j : Json) : Option ServiceAccount := do
  match ← j.fields? ["metadata"] with
  | [metadata] =>
    let m ← Json.required ObjectHeader.ofJson? metadata
    pure ⟨m.ref, m.labels, m.annotations, m.owners⟩
  | _ => none

/-! ### Roles -/

/-- The API version of roles and role bindings. -/
def rbacVersion : String := "rbac.authorization.k8s.io/v1"

/-- The document of a role. -/
def roleToJson (r : Role) : Json :=
  .obj (("apiVersion", .str rbacVersion) :: head "Role"
    { ref := r.ref, owners := r.owners, resourceVersion := r.resourceVersion } ++
    [("rules", .arr (r.rules.map Rule.toJson))])

/-- The role in a document. -/
def roleOfJson? (j : Json) : Option Role := do
  match ← j.fields? ["metadata", "rules"] with
  | [metadata, rules] =>
    let m ← Json.required ObjectHeader.ofJson? metadata
    let rules ← Json.defaulted [] (Json.list? Rule.ofJson?) rules
    pure ⟨m.ref, rules, m.owners, m.resourceVersion⟩
  | _ => none

/-- The document of a role binding. -/
def bindingToJson (b : RoleBinding) : Json :=
  .obj (("apiVersion", .str rbacVersion) :: head "RoleBinding"
    { ref := b.ref, owners := b.owners, resourceVersion := b.resourceVersion } ++
    [("roleRef", .obj [("apiGroup", .str "rbac.authorization.k8s.io"), ("kind", .str "Role"),
       ("name", .str b.roleName)]),
     ("subjects", .arr (b.subjects.map subjectToJson))])

/-- The name in the reference to a role. -/
def roleNameOfJson? (j : Json) : Option String := do
  match ← j.fields? ["name"] with
  | [name] => Json.required Json.text? name
  | _ => none

/-- The role binding in a document. -/
def bindingOfJson? (j : Json) : Option RoleBinding := do
  match ← j.fields? ["metadata", "roleRef", "subjects"] with
  | [metadata, roleRef, subjects] =>
    let m ← Json.required ObjectHeader.ofJson? metadata
    let roleName ← Json.required roleNameOfJson? roleRef
    let subjects ← Json.defaulted [] (Json.list? subjectOfJson?) subjects
    pure ⟨m.ref, roleName, subjects, m.owners, m.resourceVersion⟩
  | _ => none

/-! ### Secrets -/

/-- The document of a secret. -/
def secretToJson (s : Secret) : Json :=
  .obj ([("apiVersion", .str "v1"),
      ("data", Json.ofTexts (s.data.mapValues (Base64.encodePadded Base64.standard)))] ++
    head "Secret"
      { ref := s.ref
        labels := s.labels
        owners := s.owners
        resourceVersion := s.resourceVersion } ++
    [("type", .str "Opaque")])

/-- The metadata and the entries in the document of a secret, the octets still in base64. -/
def sealedSecretOfJson? (j : Json) : Option (ObjectHeader × SortedMap String String) := do
  match ← j.fields? ["metadata", "data"] with
  | [metadata, data] =>
    let m ← Json.required ObjectHeader.ofJson? metadata
    let data ← Json.defaulted ∅ Json.textMap? data
    pure (m, data)
  | _ => none

/-- The octets of one entry. -/
def entryOctets (e : String × String) : Except ClusterError (String × Bytes) :=
  match Base64.decode? Base64.standard .canonical e.2 with
  | some octets => .ok (e.1, octets)
  | none => .error (.transport (.secretEncoding e.1 "not base64"))

/-- The secret with the entries of a document; the first entry that is not base64 is the one
complained of. -/
def openSecret (m : ObjectHeader) (data : SortedMap String String) :
    Except ClusterError Secret := do
  let entries ← data.entries.mapM entryOctets
  pure ⟨m.ref, m.labels, SortedMap.ofList entries, m.owners, m.resourceVersion⟩

end CredentialBroker.Rest
