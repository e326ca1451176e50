import CredentialBroker.Json.Record

namespace CredentialBroker

/-!
# Owner references

A link from an object to the one it belongs to.  The cluster removes the object with its owner.
-/

/-- A link to the owner of an object. -/
structure OwnerReference where
  /-- The API group and version of the owner. -/
  apiVersion : String
  /-- The kind of the owner. -/
  kind : String
  /-- The name of the owner. -/
  name : String
  /-- The identifier the cluster gave to the owner. -/
  uid : String
  /-- Whether the owner manages the object, when that is said. -/
  controller : Option Bool
deriving DecidableEq

namespace OwnerReference

/-- The fields of the document, in order. -/
def fieldNames : List String := ["apiVersion", "kind", "name", "uid", "controller"]

/-- The reference a document holds. -/
def ofJson? (j : Json) : Option OwnerReference := do
  match ← j.fields? fieldNames with
  | [apiVersion, kind, name, uid, controller] =>
    pure {
      apiVersion := ← Json.required Json.text? apiVersion
      kind := ← Json.required Json.text? kind
      name := ← Json.required Json.text? name
      uid := ← Json.required Json.text? uid
      controller := ← Json.optional Json.flag? controller }
  | _ => none

/-- The document of a reference. -/
def toJson (o : OwnerReference) : Json :=
  .obj ([("apiVersion", .str o.apiVersion)] ++ Json.given "controller" (o.controller.map .bool) ++
    [("kind", .str o.kind), ("name", .str o.name), ("uid", .str o.uid)])

end OwnerReference

end CredentialBroker
