import CredentialBroker.Session.Basic

namespace CredentialBroker

/-!
# Documents of sessions

`Session.ofJson?` reads the document of a session and `Session.toJson` writes it.  Only the
metadata and the name in it are required.  Null stands for absence where a field is optional and
is refused elsewhere; a field named twice is refused; fields without a name in the types are kept
as they are, apart from those at the top.
-/

/-! ### Metadata -/

/-- The named fields of the metadata, in order. -/
def Metadata.fieldNames : List String :=
  ["name", "namespace", "uid", "resourceVersion", "labels", "annotations"]

/-- The metadata a document holds. -/
def Metadata.ofJson? (j : Json) : Option Metadata := do
  let (values, extra) ← j.openFields? fieldNames
  match values with
  | [name, ns, uid, resourceVersion, labels, annotations] =>
    pure {
      name := ← Json.required Json.text? name
      ns := ← Json.defaulted "" Json.text? ns
      uid := ← Json.defaulted "" Json.text? uid
      resourceVersion := ← Json.optional Json.text? resourceVersion
      labels := ← Json.defaulted ∅ Json.textMap? labels
      annotations := ← Json.defaulted ∅ Json.textMap? annotations
      extra := extra }
  | _ => none

/-- The document of metadata. -/
def Metadata.toJson (m : Metadata) : Json :=
  .obj ([("name", .str m.name), ("namespace", .str m.ns), ("uid", .str m.uid)] ++
    Json.given "resourceVersion" (m.resourceVersion.map .str) ++
    Json.givenTexts "labels" m.labels ++ Json.givenTexts "annotations" m.annotations ++
    m.extra.entries)

/-! ### Specification -/

/-- The named fields of a user context. -/
def UserContext.fieldNames : List String := ["userId"]

/-- The user context a document holds. -/
def UserContext.ofJson? (j : Json) : Option UserContext := do
  let (values, extra) ← j.openFields? fieldNames
  match values with
  | [userId] => pure { userId := ← Json.optional Json.text? userId, extra := extra }
  | _ => none

/-- The document of a user context. -/
def UserContext.toJson (u : UserContext) : Json :=
  .obj (Json.given "userId" (u.userId.map .str) ++ u.extra.entries)

/-- The named fields of a specification, in order. -/
def SessionSpec.fieldNames : List String := ["interactive", "userContext"]

/-- The specification a document holds. -/
def SessionSpec.ofJson? (j : Json) : Option SessionSpec := do
  let (values, extra) ← j.openFields? fieldNames
  match values with
  | [interactive, userContext] =>
    pure {
      interactive := ← Json.optional Json.flag? interactive
      userContext := ← Json.optional UserContext.ofJson? userContext
      extra := extra }
  | _ => none

/-- The document of a specification. -/
def SessionSpec.toJson (s : SessionSpec) : Json :=
  .obj (Json.given "interactive" (s.interactive.map .bool) ++
    Json.given "userContext" (s.userContext.map UserContext.toJson) ++ s.extra.entries)

/-! ### Status -/

/-- The named fields of a status, in order. -/
def SessionStatus.fieldNames : List String :=
  ["phase", "message", "jobName", "startTime", "completionTime"]

/-- The status a document holds. -/
def SessionStatus.ofJson? (j : Json) : Option SessionStatus := do
  let (values, extra) ← j.openFields? fieldNames
  match values with
  | [phase, message, jobName, startTime, completionTime] =>
    pure {
      phase := ← Json.optional Json.text? phase
      message := ← Json.optional Json.text? message
      jobName := ← Json.optional Json.text? jobName
      startTime := ← Json.optional Json.text? startTime
      completionTime := ← Json.optional Json.text? completionTime
      extra := extra }
  | _ => none

/-- The document of a status. -/
def SessionStatus.toJson (s : SessionStatus) : Json :=
  .obj (Json.given "phase" (s.phase.map .str) ++ Json.given "message" (s.message.map .str) ++
    Json.given "jobName" (s.jobName.map .str) ++ Json.given "startTime" (s.startTime.map .str) ++
    Json.given "completionTime" (s.completionTime.map .str) ++ s.extra.entries)

/-! ### Sessions -/

namespace Session

/-- The fields of a session, in order. -/
def fieldNames : List String := ["apiVersion", "kind", "metadata", "spec", "status"]

/-- The session a document holds. -/
def ofJson? (j : Json) : Option Session := do
  match ← j.fields? fieldNames with
  | [apiVersion, kind, metadata, spec, status] =>
    pure {
      apiVersion := ← Json.defaulted "" Json.text? apiVersion
      kind := ← Json.defaulted "" Json.text? kind
      metadata := ← Json.required Metadata.ofJson? metadata
      spec := ← Json.defaulted default SessionSpec.ofJson? spec
      status := ← Json.defaulted default SessionStatus.ofJson? status }
  | _ => none

/-- The document of a session. -/
def toJson (s : Session) : Json :=
  .obj [("apiVersion", .str s.apiVersion), ("kind", .str s.kind), ("metadata", s.metadata.toJson),
    ("spec", s.spec.toJson), ("status", s.status.toJson)]

end Session

end CredentialBroker
