import CredentialBroker.Credential.Store

namespace CredentialBroker

/-!
# Credentials for sessions

Each session has a machine identity of its own, a role that allows what a session needs, a
binding of that role to the identity and to nobody else, and a secret with a bearer token of the
identity.  `Issuer.issue` makes what is missing, repairs what differs, and puts a fresh token into
the secret; the session learns the names of its identity and its secret only when all is in place.
-/

/-! ### Names -/

/-- The name of a session's identity. -/
def identityName (session : String) : String := "ambient-session-" ++ session

/-- The name of a session's role. -/
def roleName (session : String) : String := "ambient-session-" ++ session ++ "-role"

/-- The name of a session's role binding. -/
def bindingName (session : String) : String := "ambient-session-" ++ session ++ "-rb"

/-- The name of the secret with a session's token. -/
def tokenSecretName (session : String) : String := "ambient-runner-token-" ++ session

/-- The key of the token in its secret. -/
def tokenKey : String := "k8s-token"

/-! ### Issuing -/

/-- Who issues credentials, and of what kind. -/
structure Issuer where
  /-- As whom the cluster is called. -/
  client : Client := .platform
  /-- The custom resource that holds sessions. -/
  resource : SessionResource
  /-- The lifetime asked for each token. -/
  lifetime : Span

/-- A credential that was issued. -/
structure IssuedCredential where
  /-- The name of the identity. -/
  identity : String
  /-- The secret with the token. -/
  secret : ObjectRef
  /-- When the token ceases to be valid. -/
  expiresAt : Timestamp
deriving DecidableEq

namespace Issuer

/-- A call to the cluster by the issuer. -/
def ask (i : Issuer) (call : Call) : Action CredentialError call.Reply :=
  (Action.cluster i.client call).mapError ClusterError.toCredential

/-- Makes an object; whether it was there before. -/
def create (i : Issuer) (call : Call) : Action CredentialError Bool := do
  match ← (Action.cluster i.client call).outcome with
  | .ok _ => pure false
  | .error e => if e.isAlreadyExists then pure true else throw e.toCredential

/-- The identity of a session. -/
def identity (ref : ObjectRef) (owner : OwnerReference) : ServiceAccount :=
  ⟨⟨ref.ns, identityName ref.name⟩, SortedMap.ofList [("app", "ambient-runner")], ∅, [owner]⟩

/-- The role of a session. -/
def role (i : Issuer) (ref : ObjectRef) (owner : OwnerReference) : Role :=
  ⟨⟨ref.ns, roleName ref.name⟩, requiredRules i.resource, [owner], none⟩

/-- The role binding of a session. -/
def binding (ref : ObjectRef) (owner : OwnerReference) : RoleBinding :=
  ⟨⟨ref.ns, bindingName ref.name⟩, roleName ref.name,
    [⟨"ServiceAccount", identityName ref.name, some ref.ns⟩], [owner], none⟩

/-- Sees to it that the identity of a session exists. -/
def ensureIdentity (i : Issuer) (ref : ObjectRef) (owner : OwnerReference) :
    Action CredentialError Unit :=
  discard (i.create (.createServiceAccount (identity ref owner)))

/-- Sees to it that the role of a session exists and has the required rules. -/
def ensureRole (i : Issuer) (ref : ObjectRef) (owner : OwnerReference) :
    Action CredentialError Unit := do
  let wanted := i.role ref owner
  if ← i.create (.createRole wanted) then
    let found ← i.ask (.getRole wanted.ref)
    if found.rules ≠ wanted.rules then
      discard (i.ask (.updateRole { wanted with
        resourceVersion := found.resourceVersion
        owners := if found.owners.isEmpty then wanted.owners else found.owners }))

/-- Sees to it that the role of a session is bound to its identity alone. -/
def ensureBinding (i : Issuer) (ref : ObjectRef) (owner : OwnerReference) :
    Action CredentialError Unit := do
  let wanted := binding ref owner
  if ← i.create (.createRoleBinding wanted) then
    let found ← i.ask (.getRoleBinding wanted.ref)
    if found.subjects ≠ wanted.subjects then
      discard (i.ask (.updateRoleBinding { wanted with
        resourceVersion := found.resourceVersion
        roleName := found.roleName }))

/-- Issues a credential for a session. -/
def issue (i : Issuer) (ref : ObjectRef) : Action CredentialError IssuedCredential := do
  let session ← i.ask (.getSession ref)
  let owner := session.ownerReference
  i.ensureIdentity ref owner
  i.ensureRole ref owner
  i.ensureBinding ref owner
  let account : ObjectRef := ⟨ref.ns, identityName ref.name⟩
  let minted ← i.ask (.createToken account i.lifetime)
  if minted.token = "" then
    throw (.internal ("cluster returned an empty token for " ++ account.text))
  let secret : ObjectRef := ⟨ref.ns, tokenSecretName ref.name⟩
  let store : CredentialStore := { client := i.client }
  store.writeKey secret tokenKey (Text.utf8 minted.token) owner
  discard (i.ask (.patchSessionAnnotations ref (SortedMap.ofList
    [(Session.identityKey, account.name), (Session.credentialSecretKey, secret.name)])))
  pure ⟨account.name, secret, minted.expiresAt⟩

/-- Issues a credential for a session if that can be done. -/
def issue? {ε : Type} (i : Issuer) (ref : ObjectRef) : Action ε (Option IssuedCredential) := do
  match ← (i.issue ref).outcome with
  | .ok credential => pure (some credential)
  | .error _ => pure none

end Issuer

end CredentialBroker
