import CredentialBroker.Cluster.Error
import CredentialBroker.Cluster.Object
import CredentialBroker.Session.Basic

namespace CredentialBroker

/-!
# Calls to the cluster

`Call` lists what can be asked of the cluster, and `Call.Reply` gives for each call the type of
its answer.  A call is made as a `Client`: the platform's own identity or the holder of a bearer
token.  `Call.access` says what a caller must be allowed to do, and `Call.target` what the call
is about.
-/

/-- As whom a call is made. -/
inductive Client where
  /-- The identity of this program. -/
  | platform
  /-- The holder of a bearer token. -/
  | bearer (token : String)
deriving DecidableEq

/-- The operations of the cluster. -/
inductive Operation where
  | getSession | patchSessionAnnotations | updateSession | updateSessionStatus
  | getServiceAccount | createServiceAccount | patchServiceAccountAnnotations | createToken
  | getRole | createRole | updateRole
  | getRoleBinding | createRoleBinding | updateRoleBinding
  | getSecret | createSecret | updateSecret
  | reviewToken | checkAccess | deleteJob | deletePods
deriving DecidableEq

namespace Operation

/-- All operations. -/
def all : List Operation :=
  [.getSession, .patchSessionAnnotations, .updateSession, .updateSessionStatus,
   .getServiceAccount, .createServiceAccount, .patchServiceAccountAnnotations, .createToken,
   .getRole, .createRole, .updateRole, .getRoleBinding, .createRoleBinding, .updateRoleBinding,
   .getSecret, .createSecret, .updateSecret, .reviewToken, .checkAccess, .deleteJob, .deletePods]

/-- The name of an operation. -/
def name : Operation → String
  | .getSession => "get_session"
  | .patchSessionAnnotations => "patch_session_annotations"
  | .updateSession => "update_session"
  | .updateSessionStatus => "update_session_status"
  | .getServiceAccount => "get_service_account"
  | .createServiceAccount => "create_service_account"
  | .patchServiceAccountAnnotations => "patch_service_account_annotations"
  | .createToken => "create_token"
  | .getRole => "get_role"
  | .createRole => "create_role"
  | .updateRole => "update_role"
  | .getRoleBinding => "get_role_binding"
  | .createRoleBinding => "create_role_binding"
  | .updateRoleBinding => "update_role_binding"
  | .getSecret => "get_secret"
  | .createSecret => "create_secret"
  | .updateSecret => "update_secret"
  | .reviewToken => "review_token"
  | .checkAccess => "check_access"
  | .deleteJob => "delete_job"
  | .deletePods => "delete_pods"

/-- The operation with a name. -/
def ofName? (s : String) : Option Operation := all.find? fun o => o.name = s

end Operation

/-- A call to the cluster. -/
inductive Call where
  /-- Read a session. -/
  | getSession (ref : ObjectRef)
  /-- Merge annotations into a session, whatever its version. -/
  | patchSessionAnnotations (ref : ObjectRef) (annotations : SortedMap String String)
  /-- Replace the metadata and the specification of a session of the version named in it. -/
  | updateSession (session : Session)
  /-- Replace the status of a session of the version named in it. -/
  | updateSessionStatus (session : Session)
  /-- Read a machine identity. -/
  | getServiceAccount (ref : ObjectRef)
  /-- Make a machine identity. -/
  | createServiceAccount (account : ServiceAccount)
  /-- Merge annotations into a machine identity. -/
  | patchServiceAccountAnnotations (ref : ObjectRef) (annotations : SortedMap String String)
  /-- Mint a bearer token for a machine identity. -/
  | createToken (account : ObjectRef) (lifetime : Span)
  /-- Read a role. -/
  | getRole (ref : ObjectRef)
  /-- Make a role. -/
  | createRole (role : Role)
  /-- Replace a role, of the version named in it if one is. -/
  | updateRole (role : Role)
  /-- Read a role binding. -/
  | getRoleBinding (ref : ObjectRef)
  /-- Make a role binding. -/
  | createRoleBinding (binding : RoleBinding)
  /-- Replace a role binding, of the version named in it if one is. -/
  | updateRoleBinding (binding : RoleBinding)
  /-- Read a secret. -/
  | getSecret (ref : ObjectRef)
  /-- Make a secret. -/
  | createSecret (secret : Secret)
  /-- Replace a secret, of the version named in it if one is. -/
  | updateSecret (secret : Secret)
  /-- Ask whom a bearer token stands for. -/
  | reviewToken (token : String)
  /-- Ask whether the caller may do something. -/
  | checkAccess (check : AccessCheck)
  /-- Remove a job. -/
  | deleteJob (ref : ObjectRef) (propagation : Propagation)
  /-- Remove the pods of a namespace that a selector matches. -/
  | deletePods (ns selector : String)

namespace Call

/-- The type of the answer to a call. -/
@[reducible] def Reply : Call → Type
  | .getSession _ | .patchSessionAnnotations .. | .updateSession _ | .updateSessionStatus _ =>
    Session
  | .getServiceAccount _ | .createServiceAccount _ => ServiceAccount
  | .patchServiceAccountAnnotations .. => Unit
  | .createToken .. => MintedToken
  | .getRole _ | .createRole _ | .updateRole _ => Role
  | .getRoleBinding _ | .createRoleBinding _ | .updateRoleBinding _ => RoleBinding
  | .getSecret _ | .createSecret _ | .updateSecret _ => Secret
  | .reviewToken _ => TokenReview
  | .checkAccess _ => AccessDecision
  | .deleteJob .. | .deletePods .. => Unit

/-- The operation a call makes use of. -/
def operation : Call → Operation
  | .getSession _ => .getSession
  | .patchSessionAnnotations .. => .patchSessionAnnotations
  | .updateSession _ => .updateSession
  | .updateSessionStatus _ => .updateSessionStatus
  | .getServiceAccount _ => .getServiceAccount
  | .createServiceAccount _ => .createServiceAccount
  | .patchServiceAccountAnnotations .. => .patchServiceAccountAnnotations
  | .createToken .. => .createToken
  | .getRole _ => .getRole
  | .createRole _ => .createRole
  | .updateRole _ => .updateRole
  | .getRoleBinding _ => .getRoleBinding
  | .createRoleBinding _ => .createRoleBinding
  | .updateRoleBinding _ => .updateRoleBinding
  | .getSecret _ => .getSecret
  | .createSecret _ => .createSecret
  | .updateSecret _ => .updateSecret
  | .reviewToken _ => .reviewToken
  | .checkAccess _ => .checkAccess
  | .deleteJob .. => .deleteJob
  | .deletePods .. => .deletePods

/-- What a call is about, in words. -/
def target : Call → String
  | .getSession ref | .patchSessionAnnotations ref _ | .getServiceAccount ref
  | .patchServiceAccountAnnotations ref _ | .createToken ref _ | .getRole ref
  | .getRoleBinding ref | .getSecret ref => ref.text
  | .updateSession session | .updateSessionStatus session => session.ref.text
  | .createServiceAccount account => account.ref.text
  | .createRole role | .updateRole role => role.ref.text
  | .createRoleBinding binding | .updateRoleBinding binding => binding.ref.text
  | .createSecret secret | .updateSecret secret => secret.ref.text
  | .reviewToken _ => "tokenreviews"
  | .checkAccess check => check.ns ++ "/" ++ check.resource ++ ":" ++ check.verb
  | .deleteJob ref propagation => ref.text ++ ":" ++ propagation.text
  | .deletePods ns selector => ns ++ "?" ++ selector

/-- The API group of roles and role bindings. -/
def rbacGroup : String := "rbac.authorization.k8s.io"

/-- What a caller must be allowed to do to make a call; nothing for the question what it may do. -/
def access? (resource : SessionResource) : Call → Option AccessCheck
  | .getSession ref => some ⟨resource.group, resource.plural, "get", ref.ns⟩
  | .patchSessionAnnotations ref _ => some ⟨resource.group, resource.plural, "patch", ref.ns⟩
  | .updateSession session =>
    some ⟨resource.group, resource.plural, "update", session.metadata.ns⟩
  | .updateSessionStatus session =>
    some ⟨resource.group, resource.plural ++ "/status", "update", session.metadata.ns⟩
  | .getServiceAccount ref => some ⟨"", "serviceaccounts", "get", ref.ns⟩
  | .createServiceAccount account => some ⟨"", "serviceaccounts", "create", account.ref.ns⟩
  | .patchServiceAccountAnnotations ref _ => some ⟨"", "serviceaccounts", "patch", ref.ns⟩
  | .createToken account _ => some ⟨"", "serviceaccounts/token", "create", account.ns⟩
  | .getRole ref => some ⟨rbacGroup, "roles", "get", ref.ns⟩
  | .createRole role => some ⟨rbacGroup, "roles", "create", role.ref.ns⟩
  | .updateRole role => some ⟨rbacGroup, "roles", "update", role.ref.ns⟩
  | .getRoleBinding ref => some ⟨rbacGroup, "rolebindings", "get", ref.ns⟩
  | .createRoleBinding binding => some ⟨rbacGroup, "rolebindings", "create", binding.ref.ns⟩
  | .updateRoleBinding binding => some ⟨rbacGroup, "rolebindings", "update", binding.ref.ns⟩
  | .getSecret ref => some ⟨"", "secrets", "get", ref.ns⟩
  | .createSecret secret => some ⟨"", "secrets", "create", secret.ref.ns⟩
  | .updateSecret secret => some ⟨"", "secrets", "update", secret.ref.ns⟩
  | .reviewToken _ => some ⟨"authentication.k8s.io", "tokenreviews", "create", ""⟩
  | .checkAccess _ => none
  | .deleteJob ref _ => some ⟨"batch", "jobs", "delete", ref.ns⟩
  | .deletePods ns _ => some ⟨"", "pods", "deletecollection", ns⟩

end Call

end CredentialBroker
