import CachePartition.Json.Canonical
import CachePartition.Kubernetes.Resource

/-! Definitions of custom resources, as the cluster wants them before it takes objects of a kind. -/
namespace CachePartition

/-- What a schema says of a value beside its form. -/
structure SchemaNote where
  description : Option String := none
  default : Option Json := none
  nullable : Bool := false
  title : Option String := none
  deriving Repr

/-- The form of a value. -/
inductive Schema where
  | text (n : SchemaNote)
  | flag (n : SchemaNote)
  /-- A number that is not negative, in a format. -/
  | count (format : String) (n : SchemaNote)
  | list (item : Schema) (n : SchemaNote)
  | map (value : Schema) (n : SchemaNote)
  | record (fields : List (String × Schema)) (required : List String) (n : SchemaNote)

namespace Schema

/-- How deep defaults may nest. -/
def defaultDepth : Nat := 8

/-- The fields that have a value, by name. -/
def sorted (fields : List (String × Option Json)) : Json :=
  .object (SortedMap.ofList (fields.filterMap fun f => f.2.map fun j => (f.1, j))).entries

/-- A schema of a type with a note and what else there is to it. -/
def noted (type : String) (n : SchemaNote) (others : List (String × Option Json)) : Json :=
  sorted (others ++ [
    ("type", some (.string type)),
    ("description", n.description.map .string),
    ("default", n.default.bind (Json.canonical? defaultDepth)),
    ("nullable", if n.nullable then some (.bool true) else none),
    ("title", n.title.map .string)])

mutual

def toJson : Schema → Json
  | .text n => noted "string" n []
  | .flag n => noted "boolean" n []
  | .count format n =>
    noted "integer" n [("format", some (.string format)), ("minimum", some (.ofBinary64 (.ofNat 0)))]
  | .list item n => noted "array" n [("items", some item.toJson)]
  | .map value n => noted "object" n [("additionalProperties", some value.toJson)]
  | .record fields required n =>
    noted "object" n [
      ("properties", some (sorted (fieldsToJson fields))),
      ("required", Json.unlessNone required)]

def fieldsToJson : List (String × Schema) → List (String × Option Json)
  | [] => []
  | (name, s) :: rest => (name, some s.toJson) :: fieldsToJson rest

end

end Schema

/-- A kind of resource with a specification and a status. -/
structure ResourceDefinition where
  kind : String
  plural : String
  singular : String
  shortName : String
  spec : Schema
  status : Schema

namespace ResourceDefinition

def group : String := "intel.com"

def schema (d : ResourceDefinition) : Schema :=
  .record [("spec", d.spec), ("status", d.status)] ["spec"] {
    title := some d.kind
    description := some ("Auto-generated derived type for " ++ d.kind ++ "Spec via `CustomResource`") }

def names (d : ResourceDefinition) : Json :=
  .object [("categories", .array []), ("kind", .string d.kind), ("plural", .string d.plural),
    ("shortNames", .ofTexts [d.shortName]), ("singular", .string d.singular)]

def version (d : ResourceDefinition) : Json :=
  .object [
    ("additionalPrinterColumns", .array []),
    ("name", .string "v1alpha1"),
    ("schema", .object [("openAPIV3Schema", d.schema.toJson)]),
    ("served", .bool true),
    ("storage", .bool true),
    ("subresources", .object [("status", .object [])])]

def toJson (d : ResourceDefinition) : Json :=
  .object [
    ("apiVersion", .string "apiextensions.k8s.io/v1"),
    ("kind", .string "CustomResourceDefinition"),
    ("metadata", .object [("name", .string (d.plural ++ "." ++ group))]),
    ("spec", .object [("group", .string group), ("names", d.names),
      ("scope", .string "Namespaced"), ("versions", .array [d.version])])]

end ResourceDefinition

end CachePartition
