import CredentialBroker.Cluster.Call
import CredentialBroker.Cluster.Identity
import CredentialBroker.Word

namespace CredentialBroker

/-!
# The objects of a cluster

`Objects` holds what is stored in a cluster, and `Objects.apply` says what an admitted call does
to it: an error, or new objects and an answer.  An error leaves the objects as they were, since
it comes without new ones.
-/

/-- A running unit of a job. -/
structure Pod where
  /-- Where it is. -/
  ref : ObjectRef
  /-- Its labels. -/
  labels : SortedMap String String
deriving DecidableEq

/-- A rule given to a user by name. -/
structure Grant where
  /-- The user. -/
  user : String
  /-- The namespace, a star for all. -/
  ns : String
  /-- What is allowed. -/
  rule : Rule
deriving DecidableEq

/-- The stored objects of a cluster. -/
structure Objects where
  /-- The sessions. -/
  sessions : SortedMap ObjectRef Session := ∅
  /-- The machine identities. -/
  accounts : SortedMap ObjectRef ServiceAccount := ∅
  /-- The roles. -/
  roles : SortedMap ObjectRef Role := ∅
  /-- The role bindings. -/
  bindings : SortedMap ObjectRef RoleBinding := ∅
  /-- The secrets. -/
  secrets : SortedMap ObjectRef Secret := ∅
  /-- The jobs. -/
  jobs : SortedMap ObjectRef Unit := ∅
  /-- The pods, oldest first. -/
  pods : List Pod := []
  /-- The user behind each bearer token. -/
  tokens : SortedMap String String := ∅
  /-- The rules given to users by name. -/
  grants : List Grant := []

/-- What a call gets drawn for it: a version, a token and the time. -/
structure Draw where
  /-- The version of an object written by the call. -/
  version : String
  /-- The token minted by the call. -/
  token : String
  /-- The time of the call. -/
  now : Timestamp

/-- The users that calls are recorded under when they are none of the cluster's own. -/
def platformUser : String := "system:platform"

namespace Objects

/-! ### Access control -/

/-- Whether a subject of a binding in `ns` is the given machine identity. -/
def isSubject (account : ObjectRef) (ns : String) (s : Subject) : Bool :=
  s.kind = "ServiceAccount" && s.name = account.name && s.ns.getD ns = account.ns

/-- The rules a machine identity has in a namespace through role bindings. -/
def boundRules (o : Objects) (account : ObjectRef) (ns : String) : List Rule :=
  (o.bindings.values.filter fun b => b.ref.ns = ns && b.subjects.any (isSubject account ns)).flatMap
    fun b => ((o.roles.get? ⟨ns, b.roleName⟩).map (·.rules)).getD []

/-- The rules a user has in a namespace: those given by name and those of role bindings. -/
def rulesFor (o : Objects) (user ns : String) : List Rule :=
  (o.grants.filter fun g => g.user = user && (g.ns = "*" || g.ns = ns)).map (·.rule) ++
    ((Identity.accountOf? user).map fun account => o.boundRules account ns).getD []

/-- Whether a user may do what a check asks for. -/
def permits (o : Objects) (user : String) (c : AccessCheck) : Bool :=
  c.allowedBy (o.rulesFor user c.ns)

/-- The user a client is known as. -/
def userOf? (o : Objects) : Client → Option String
  | .platform => some platformUser
  | .bearer token => o.tokens.get? token

/-! ### Versions -/

/-- The value of a look-up, or that there is no such object. -/
def found {α : Type} (kind : String) (ref : ObjectRef) : Option α → Except ClusterError α
  | some a => .ok a
  | none => .error (.notFound kind ref.text)

/-- Refuses a version that is given and is not the stored one. -/
def checkVersion (kind : String) (ref : ObjectRef) (given stored : Option String) :
    Except ClusterError Unit :=
  if given.isSome ∧ given ≠ stored then .error (.conflict kind ref.text) else .ok ()

/-- The kind of a session in errors. -/
def sessionKind : String := "AgenticSession"

/-- What is said of a session without a version. -/
def versionMissing : String := "metadata.resourceVersion: must be specified for an update"

/-- Refuses a session that does not name the stored version. -/
def checkSession (session stored : Session) : Except ClusterError Unit :=
  if session.metadata.resourceVersion.isNone then .error (.api 422 versionMissing)
  else checkVersion sessionKind session.ref session.metadata.resourceVersion
    stored.metadata.resourceVersion

/-- Refuses an object that is there already. -/
def checkAbsent {α : Type} (kind name : String) : Option α → Except ClusterError Unit
  | none => .ok ()
  | some _ => .error (.alreadyExists kind name)

/-! ### Selectors -/

/-- Whether labels fit one term of a selector: a key, or a key and its value. -/
def fitsTerm (labels : SortedMap String String) (term : String) : Bool :=
  match Text.cut? '=' term with
  | some (key, value) => labels.get? (Text.trim key) = some (Text.trim value)
  | none => labels.contains (Text.trim term)

/-- Whether labels fit every term of a selector. -/
def fits (selector : String) (labels : SortedMap String String) : Bool :=
  ((Text.pieces ',' selector).filter (· ≠ "")).all (fitsTerm labels)

/-! ### Calls -/

/-- A session with a version. -/
def versioned (s : Session) (version : String) : Session :=
  { s with metadata := { s.metadata with resourceVersion := some version } }

/-- The longest lifetime of a token; one beyond it is replaced by `defaultLifetime`. -/
def longestLifetime : Span := ⟨(Word.values 63 - 1) * 1000000, by decide⟩

/-- The lifetime of a token for which too long a one was asked. -/
def defaultLifetime : Span := .ofSeconds 3600

/-- The lifetime a token gets.  It is added to the time as it is.  Past the last day of the calendar
there is no time to answer with: what is said of the end of a token speaks of lifetimes that end
within the calendar. -/
def lifetimeFor (asked : Span) : Span :=
  if asked.nanos ≤ longestLifetime.nanos then asked else defaultLifetime

/-- The answer to the question what a user may do. -/
def decide (o : Objects) (who : Client) (user : String) (c : AccessCheck) : AccessDecision :=
  match who with
  | .platform => ⟨true, "platform identity"⟩
  | .bearer _ =>
    if o.permits user c then ⟨true, "allowed by policy"⟩ else ⟨false, "no matching rule"⟩

/-- The answer to the question whom a token stands for. -/
def review (o : Objects) (token : String) : TokenReview :=
  match o.tokens.get? token with
  | some user => ⟨true, some user, none⟩
  | none => ⟨false, none, none⟩

/-- The effect of a call that is admitted, made by a client known as `user`. -/
def apply (d : Draw) (who : Client) (user : String) (o : Objects) :
    (call : Call) → Except ClusterError (Objects × call.Reply)
  | .getSession ref => do
    let s ← found sessionKind ref (o.sessions.get? ref)
    pure (o, s)
  | .patchSessionAnnotations ref annotations => do
    let s ← found sessionKind ref (o.sessions.get? ref)
    let s := versioned { s with metadata := { s.metadata with
      annotations := s.metadata.annotations.union annotations } } d.version
    pure ({ o with sessions := o.sessions.insert ref s }, s)
  | .updateSession session => do
    let stored ← found sessionKind session.ref (o.sessions.get? session.ref)
    checkSession session stored
    let s := versioned { stored with metadata := session.metadata, spec := session.spec } d.version
    pure ({ o with sessions := o.sessions.insert session.ref s }, s)
  | .updateSessionStatus session => do
    let stored ← found sessionKind session.ref (o.sessions.get? session.ref)
    checkSession session stored
    let s := versioned { stored with status := session.status } d.version
    pure ({ o with sessions := o.sessions.insert session.ref s }, s)
  | .getServiceAccount ref => do
    let a ← found "ServiceAccount" ref (o.accounts.get? ref)
    pure (o, a)
  | .createServiceAccount account => do
    checkAbsent "ServiceAccount" account.ref.name (o.accounts.get? account.ref)
    pure ({ o with accounts := o.accounts.insert account.ref account }, account)
  | .patchServiceAccountAnnotations ref annotations => do
    let a ← found "ServiceAccount" ref (o.accounts.get? ref)
    let a := { a with annotations := a.annotations.union annotations }
    pure ({ o with accounts := o.accounts.insert ref a }, ())
  | .createToken account lifetime => do
    let _ ← found "ServiceAccount" account (o.accounts.get? account)
    pure ({ o with tokens := o.tokens.insert d.token (Identity.user account) },
      ⟨d.token, d.now.after (lifetimeFor lifetime)⟩)
  | .getRole ref => do
    let r ← found "Role" ref (o.roles.get? ref)
    pure (o, r)
  | .createRole role => do
    checkAbsent "Role" role.ref.name (o.roles.get? role.ref)
    let r := { role with resourceVersion := some d.version }
    pure ({ o with roles := o.roles.insert role.ref r }, r)
  | .updateRole role => do
    let stored ← found "Role" role.ref (o.roles.get? role.ref)
    checkVersion "Role" role.ref role.resourceVersion stored.resourceVersion
    let r := { role with resourceVersion := some d.version }
    pure ({ o with roles := o.roles.insert role.ref r }, r)
  | .getRoleBinding ref => do
    let b ← found "RoleBinding" ref (o.bindings.get? ref)
    pure (o, b)
  | .createRoleBinding binding => do
    checkAbsent "RoleBinding" binding.ref.name (o.bindings.get? binding.ref)
    let b := { binding with resourceVersion := some d.version }
    pure ({ o with bindings := o.bindings.insert binding.ref b }, b)
  | .updateRoleBinding binding => do
    let stored ← found "RoleBinding" binding.ref (o.bindings.get? binding.ref)
    checkVersion "RoleBinding" binding.ref binding.resourceVersion stored.resourceVersion
    let b := { binding with resourceVersion := some d.version }
    pure ({ o with bindings := o.bindings.insert binding.ref b }, b)
  | .getSecret ref => do
    let s ← found "Secret" ref (o.secrets.get? ref)
    pure (o, s)
  | .createSecret secret => do
    checkAbsent "Secret" secret.ref.name (o.secrets.get? secret.ref)
    let s := { secret with resourceVersion := some d.version }
    pure ({ o with secrets := o.secrets.insert secret.ref s }, s)
  | .updateSecret secret => do
    let stored ← found "Secret" secret.ref (o.secrets.get? secret.ref)
    checkVersion "Secret" secret.ref secret.resourceVersion stored.resourceVersion
    let s := { secret with resourceVersion := some d.version }
    pure ({ o with secrets := o.secrets.insert secret.ref s }, s)
  | .reviewToken token => pure (o, o.review token)
  | .checkAccess check => pure (o, o.decide who user check)
  | .deleteJob ref _ => do
    let _ ← found "Job" ref (o.jobs.get? ref)
    pure ({ o with jobs := o.jobs.erase ref }, ())
  | .deletePods ns selector =>
    pure ({ o with pods := o.pods.filter fun p => !(p.ref.ns = ns && fits selector p.labels) }, ())

end Objects

end CredentialBroker
