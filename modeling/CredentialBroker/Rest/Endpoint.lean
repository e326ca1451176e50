import CredentialBroker.Cluster.Call
import CredentialBroker.Rest.Document
import CredentialBroker.Session.Document

namespace CredentialBroker.Rest

/-!
# Where calls go

Each call to the cluster is one request to its interface: a method, a path below the base URL,
parameters, and a document.  `wording` says how a call and its object are named in errors.
-/

/-- One request to the interface of a cluster. -/
structure Endpoint where
  /-- The method. -/
  method : String
  /-- The path, put behind the base URL as it is. -/
  path : String
  /-- The parameters. -/
  query : List (String × String) := []
  /-- The document with its type. -/
  content : Option (String × Json) := none

/-- The type of whole documents. -/
def jsonType : String := "application/json"

/-- The type of documents that are merged into stored ones. -/
def mergeType : String := "application/merge-patch+json"

namespace Endpoint

/-- A request that reads. -/
def get (path : String) : Endpoint := { method := "GET", path := path }

/-- A request that makes something. -/
def post (path : String) (body : Json) : Endpoint :=
  { method := "POST", path := path, content := some (jsonType, body) }

/-- A request that replaces something. -/
def put (path : String) (body : Json) : Endpoint :=
  { method := "PUT", path := path, content := some (jsonType, body) }

/-- A request that merges annotations into something. -/
def patch (path : String) (annotations : SortedMap String String) : Endpoint :=
  { method := "PATCH", path := path, content := some (mergeType,
      .obj [("metadata", .obj [("annotations", Json.ofTexts annotations)])]) }

/-- A request that removes something. -/
def delete (path : String) (query : List (String × String)) : Endpoint :=
  { method := "DELETE", path := path, query := query }

end Endpoint

/-- The path of the sessions of a namespace. -/
def sessionsPath (resource : SessionResource) (ns : String) : String :=
  "/apis/" ++ resource.group ++ "/" ++ resource.version ++ "/namespaces/" ++ ns ++ "/" ++
    resource.plural

/-- The path of a session. -/
def sessionPath (resource : SessionResource) (ref : ObjectRef) : String :=
  sessionsPath resource ref.ns ++ "/" ++ ref.name

/-- The path of a kind of objects of a namespace. -/
def corePath (ns plural : String) : String := "/api/v1/namespaces/" ++ ns ++ "/" ++ plural

/-- The path of roles or role bindings of a namespace. -/
def rbacPath (ns plural : String) : String :=
  "/apis/rbac.authorization.k8s.io/v1/namespaces/" ++ ns ++ "/" ++ plural

/-- The document that asks for a token. -/
def tokenRequest (lifetime : Span) : Json :=
  .obj [("apiVersion", .str "authentication.k8s.io/v1"), ("kind", .str "TokenRequest"),
    ("spec", .obj [("expirationSeconds", .int lifetime.seconds)])]

/-- The document that asks whom a token stands for. -/
def tokenReview (token : String) : Json :=
  .obj [("apiVersion", .str "authentication.k8s.io/v1"), ("kind", .str "TokenReview"),
    ("spec", .obj [("token", .str token)])]

/-- The document that asks what the caller may do. -/
def accessReview (c : AccessCheck) : Json :=
  .obj [("apiVersion", .str "authorization.k8s.io/v1"), ("kind", .str "SelfSubjectAccessReview"),
    ("spec", .obj [("resourceAttributes", .obj [("group", .str c.group),
      ("namespace", .str c.ns), ("resource", .str c.resource), ("verb", .str c.verb)])])]

/-- The request of a call. -/
def endpoint (resource : SessionResource) : Call → Endpoint
  | .getSession ref => .get (sessionPath resource ref)
  | .patchSessionAnnotations ref annotations => .patch (sessionPath resource ref) annotations
  | .updateSession session => .put (sessionPath resource session.ref) session.toJson
  | .updateSessionStatus session =>
    .put (sessionPath resource session.ref ++ "/status") session.toJson
  | .getServiceAccount ref => .get (corePath ref.ns "serviceaccounts" ++ "/" ++ ref.name)
  | .createServiceAccount account =>
    .post (corePath account.ref.ns "serviceaccounts") (accountToJson account)
  | .patchServiceAccountAnnotations ref annotations =>
    .patch (corePath ref.ns "serviceaccounts" ++ "/" ++ ref.name) annotations
  | .createToken account lifetime =>
    .post (corePath account.ns "serviceaccounts" ++ "/" ++ account.name ++ "/token")
      (tokenRequest lifetime)
  | .getRole ref => .get (rbacPath ref.ns "roles" ++ "/" ++ ref.name)
  | .createRole role => .post (rbacPath role.ref.ns "roles") (roleToJson role)
  | .updateRole role =>
    .put (rbacPath role.ref.ns "roles" ++ "/" ++ role.ref.name) (roleToJson role)
  | .getRoleBinding ref => .get (rbacPath ref.ns "rolebindings" ++ "/" ++ ref.name)
  | .createRoleBinding binding =>
    .post (rbacPath binding.ref.ns "rolebindings") (bindingToJson binding)
  | .updateRoleBinding binding =>
    .put (rbacPath binding.ref.ns "rolebindings" ++ "/" ++ binding.ref.name)
      (bindingToJson binding)
  | .getSecret ref => .get (corePath ref.ns "secrets" ++ "/" ++ ref.name)
  | .createSecret secret => .post (corePath secret.ref.ns "secrets") (secretToJson secret)
  | .updateSecret secret =>
    .put (corePath secret.ref.ns "secrets" ++ "/" ++ secret.ref.name) (secretToJson secret)
  | .reviewToken token => .post "/apis/authentication.k8s.io/v1/tokenreviews" (tokenReview token)
  | .checkAccess check =>
    .post "/apis/authorization.k8s.io/v1/selfsubjectaccessreviews" (accessReview check)
  | .deleteJob ref propagation =>
    .delete ("/apis/batch/v1/namespaces/" ++ ref.ns ++ "/jobs/" ++ ref.name)
      [("propagationPolicy", propagation.text)]
  | .deletePods ns selector => .delete (corePath ns "pods") [("labelSelector", selector)]

/-- How a call and its object are named in errors. -/
structure Wording where
  /-- The call. -/
  operation : String
  /-- The kind of the object. -/
  kind : String
  /-- The name of the object. -/
  name : String

/-- How a call and its object are named in errors. -/
def wording : Call → Wording
  | .getSession ref => ⟨"get session", "AgenticSession", ref.name⟩
  | .patchSessionAnnotations ref _ => ⟨"patch session", "AgenticSession", ref.name⟩
  | .updateSession session => ⟨"update session", "AgenticSession", session.metadata.name⟩
  | .updateSessionStatus session =>
    ⟨"update session status", "AgenticSession", session.metadata.name⟩
  | .getServiceAccount ref => ⟨"get service account", "ServiceAccount", ref.name⟩
  | .createServiceAccount account =>
    ⟨"create service account", "ServiceAccount", account.ref.name⟩
  | .patchServiceAccountAnnotations ref _ => ⟨"patch service account", "ServiceAccount", ref.name⟩
  | .createToken account _ => ⟨"create token", "ServiceAccount", account.name⟩
  | .getRole ref => ⟨"get role", "Role", ref.name⟩
  | .createRole role => ⟨"create role", "Role", role.ref.name⟩
  | .updateRole role => ⟨"update role", "Role", role.ref.name⟩
  | .getRoleBinding ref => ⟨"get role binding", "RoleBinding", ref.name⟩
  | .createRoleBinding binding => ⟨"create role binding", "RoleBinding", binding.ref.name⟩
  | .updateRoleBinding binding => ⟨"update role binding", "RoleBinding", binding.ref.name⟩
  | .getSecret ref => ⟨"get secret", "Secret", ref.name⟩
  | .createSecret secret => ⟨"create secret", "Secret", secret.ref.name⟩
  | .updateSecret secret => ⟨"update secret", "Secret", secret.ref.name⟩
  | .reviewToken _ => ⟨"token review", "TokenReview", ""⟩
  | .checkAccess _ => ⟨"access review", "SelfSubjectAccessReview", ""⟩
  | .deleteJob ref _ => ⟨"delete job", "Job", ref.name⟩
  | .deletePods _ selector => ⟨"delete pods", "Pod", selector⟩

end CredentialBroker.Rest
