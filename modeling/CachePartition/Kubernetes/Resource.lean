import CachePartition.Kubernetes.Metadata

/-! Custom resources: metadata, a specification, and a status once there is one. -/
namespace CachePartition

open Json

/-- The group and version of the resources of this program. -/
def resourceVersion : String := "intel.com/v1alpha1"

/-- A resource as JSON, under its kind. -/
def resourceJson (kind : String) (metadata : Metadata) (spec : Json) (status : Option Json) : Json :=
  .record [
    ("apiVersion", some (.string resourceVersion)),
    ("kind", some (.string kind)),
    ("metadata", some metadata.toJson),
    ("spec", some spec),
    ("status", status)]

/-- The number of values of a record; an object may leave fields out. -/
def isComplete (size : Nat) : Json → Bool
  | .array items => items.length = size
  | _ => true

/-- Metadata, specification and status of a resource of any kind. -/
def resourceOfJson? {σ τ : Type} (spec? : Json → Option σ) (status? : Json → Option τ) (j : Json) :
    Option (Metadata × σ × Option τ) := do
  let field ← j.record? ["metadata", "spec", "status"]
  if isComplete 3 j then
    let metadata ← required (field "metadata") Metadata.ofJson?
    let spec ← required (field "spec") spec?
    let status ← maybe (field "status") status?
    some (metadata, spec, status)
  else none

end CachePartition
