import CredentialBroker.Cluster.Access
import CredentialBroker.Cluster.Owner
import CredentialBroker.Cluster.Ref
import CredentialBroker.Text.Description
import CredentialBroker.Text.Utf8
import CredentialBroker.Time.Timestamp

namespace CredentialBroker

/-!
# Objects of the cluster

Machine identities, roles, role bindings and secrets as this library sees them, with the answers
of the cluster that are no objects: minted tokens and token reviews.
-/

/-- A machine identity. -/
structure ServiceAccount where
  /-- Where it is. -/
  ref : ObjectRef
  /-- Its labels. -/
  labels : SortedMap String String
  /-- Its annotations. -/
  annotations : SortedMap String String
  /-- Its owners. -/
  owners : List OwnerReference
deriving DecidableEq

/-- A set of access rules for a namespace. -/
structure Role where
  /-- Where it is. -/
  ref : ObjectRef
  /-- Its rules. -/
  rules : List Rule
  /-- Its owners. -/
  owners : List OwnerReference
  /-- The version of the stored object, when known. -/
  resourceVersion : Option String
deriving DecidableEq

/-- One to whom a role is given. -/
structure Subject where
  /-- The kind of subject. -/
  kind : String
  /-- Its name. -/
  name : String
  /-- Its namespace; the one of the binding when it is left out. -/
  ns : Option String
deriving DecidableEq

/-- A role given to subjects. -/
structure RoleBinding where
  /-- Where it is. -/
  ref : ObjectRef
  /-- The name of the role, in the same namespace. -/
  roleName : String
  /-- Those to whom the role is given. -/
  subjects : List Subject
  /-- Its owners. -/
  owners : List OwnerReference
  /-- The version of the stored object, when known. -/
  resourceVersion : Option String
deriving DecidableEq

/-- Secret octets by key. -/
structure Secret where
  /-- Where it is. -/
  ref : ObjectRef
  /-- Its labels. -/
  labels : SortedMap String String
  /-- The octets under each key. -/
  data : SortedMap String Bytes
  /-- Its owners. -/
  owners : List OwnerReference
  /-- The version of the stored object, when known. -/
  resourceVersion : Option String
deriving DecidableEq

/-- A bearer token fresh from the cluster. -/
structure MintedToken where
  /-- The token. -/
  token : String
  /-- When it ceases to be valid. -/
  expiresAt : Timestamp
deriving DecidableEq

/-- What the cluster says of a bearer token. -/
structure TokenReview where
  /-- Whether it is valid. -/
  authenticated : Bool
  /-- The user it stands for. -/
  username : Option String
  /-- What went wrong. -/
  error : Option String
deriving DecidableEq

/-- How the dependents of a removed job go. -/
inductive Propagation where
  /-- Before the job does. -/
  | foreground
  /-- In their own time. -/
  | background
deriving DecidableEq

/-- The word for a way of removal. -/
def Propagation.text : Propagation → String
  | .foreground => "Foreground"
  | .background => "Background"

/-! ### Descriptions -/

/-- A reference to an owner, described for logs. -/
def OwnerReference.description (o : OwnerReference) : String :=
  Description.record "OwnerReference"
    [("api_version", Text.quoted o.apiVersion), ("kind", Text.quoted o.kind),
     ("name", Text.quoted o.name), ("uid", Text.quoted o.uid),
     ("controller", Description.option toString o.controller)]

/-- A secret described for logs: its keys without their octets. -/
def Secret.description (s : Secret) : String :=
  Description.record "SecretObject"
    [("name", Text.quoted s.ref.name), ("namespace", Text.quoted s.ref.ns),
     ("labels", Description.textMap s.labels.entries), ("keys", Description.texts s.data.keys),
     ("owner_references", Description.list (s.owners.map OwnerReference.description)),
     ("resource_version", Description.option Text.quoted s.resourceVersion)]

end CredentialBroker
