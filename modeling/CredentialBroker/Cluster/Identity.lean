import CredentialBroker.Cluster.Ref
import CredentialBroker.Text.Split

namespace CredentialBroker.Identity

/-!
# User names of machine identities

The cluster names the user behind a machine identity after its namespace and its name.
`accountOf?` undoes that as the cluster's access control does, `subject?` as this library does:
it wants both parts, and no further colon.
-/

/-- What the user name of a machine identity begins with. -/
def userStart : String := "system:serviceaccount:"

/-- The user name of a machine identity. -/
def user (account : ObjectRef) : String := userStart ++ account.ns ++ ":" ++ account.name

/-- The namespace up to the first colon and the name after it. -/
def accountOf? (user : String) : Option ObjectRef := do
  let rest ← Text.dropPrefix? userStart user
  let (ns, name) ← Text.cut? ':' rest
  pure ⟨ns, name⟩

/-- The machine identity a user name stands for, both parts given and free of colons. -/
def subject? (user : String) : Option ObjectRef :=
  (accountOf? user).filter fun r => r.ns ≠ "" ∧ r.name ≠ "" ∧ ¬ r.name.toList.contains ':'

end CredentialBroker.Identity
