import CredentialBroker.Json.Record

namespace CredentialBroker

/-!
# Access rules

A rule allows verbs on resources of API groups, a star standing for all of them.  An access check
asks whether a verb may be applied to a resource in a namespace.

`missingRules` gives the required rules that some existing rules leave uncovered: a required rule
counts as covered when each of the triples it names is allowed by a rule that exists.
-/

/-- The group, the version and the plural name of the custom resource that holds sessions. -/
structure SessionResource where
  /-- The API group. -/
  group : String := "vteam.ambient-code"
  /-- The version within the group. -/
  version : String := "v1alpha1"
  /-- The plural name. -/
  plural : String := "agenticsessions"
deriving DecidableEq

/-- The group and version as objects name them. -/
def SessionResource.apiVersion (r : SessionResource) : String := r.group ++ "/" ++ r.version

/-- A rule that allows every listed verb on every listed resource of every listed group. -/
structure Rule where
  /-- The API groups. -/
  apiGroups : List String
  /-- The resources. -/
  resources : List String
  /-- The verbs. -/
  verbs : List String
deriving DecidableEq

/-- A question to the access control of the cluster. -/
structure AccessCheck where
  /-- The API group of the resource. -/
  group : String
  /-- The resource. -/
  resource : String
  /-- The verb. -/
  verb : String
  /-- The namespace. -/
  ns : String
deriving DecidableEq

/-- The answer of the access control. -/
structure AccessDecision where
  /-- Whether the access is allowed. -/
  allowed : Bool
  /-- Why, in words. -/
  reason : String
deriving DecidableEq

namespace Rule

/-- Whether a list of names covers one: it is listed, or a star is. -/
def covers (names : List String) (name : String) : Bool :=
  names.any fun n => n = name || n = "*"

/-- Whether the rule allows a verb on a resource of a group. -/
def allows (r : Rule) (group resource verb : String) : Bool :=
  covers r.apiGroups group && covers r.resources resource && covers r.verbs verb

/-- The fields of the document, in order. -/
def fieldNames : List String := ["apiGroups", "resources", "verbs"]

/-- The rule a document holds. -/
def ofJson? (j : Json) : Option Rule := do
  match ← j.fields? fieldNames with
  | [apiGroups, resources, verbs] =>
    pure {
      apiGroups := ← Json.defaulted [] (Json.list? Json.text?) apiGroups
      resources := ← Json.defaulted [] (Json.list? Json.text?) resources
      verbs := ← Json.defaulted [] (Json.list? Json.text?) verbs }
  | _ => none

/-- The document of a rule. -/
def toJson (r : Rule) : Json :=
  .obj [("apiGroups", Json.texts r.apiGroups), ("resources", Json.texts r.resources),
    ("verbs", Json.texts r.verbs)]

end Rule

/-- Whether some of the rules allows what the check asks for. -/
def AccessCheck.allowedBy (c : AccessCheck) (rules : List Rule) : Bool :=
  rules.any fun r => r.allows c.group c.resource c.verb

/-- The rules that the identity of a session needs: to report its status, to read and write
sessions, and to ask what it may do. -/
def requiredRules (resource : SessionResource) : List Rule :=
  [⟨[resource.group], [resource.plural ++ "/status"], ["get", "update", "patch"]⟩,
   ⟨[resource.group], [resource.plural], ["get", "list", "watch", "update", "patch"]⟩,
   ⟨["authorization.k8s.io"], ["selfsubjectaccessreviews"], ["create"]⟩]

/-- Whether each triple that a rule names is allowed by one of the existing rules. -/
def Rule.coveredBy (r : Rule) (existing : List Rule) : Bool :=
  r.apiGroups.all fun g => r.resources.all fun s => r.verbs.all fun v =>
    existing.any fun e => e.allows g s v

/-- The required rules that the existing ones do not cover. -/
def missingRules (existing required : List Rule) : List Rule :=
  required.filter fun r => !r.coveredBy existing

end CredentialBroker
