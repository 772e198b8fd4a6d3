import CachePartition.Json.Canonical
import CachePartition.Kubernetes.Timestamp
import CachePartition.SortedMap

/-! The metadata that every object of the cluster carries. -/
namespace CachePartition

open Json

/-- The object that another one goes away with. -/
structure OwnerReference where
  apiVersion : String := ""
  kind : String := ""
  name : String := ""
  uid : String := ""
  controller : Option Bool := none
  blockOwnerDeletion : Option Bool := none
  deriving DecidableEq, Repr

/-- Which fields a client manages. -/
structure ManagedFields where
  apiVersion : Option String := none
  fieldsType : Option String := none
  fields : Option Json := none
  manager : Option String := none
  operation : Option String := none
  subresource : Option String := none
  time : Option Timestamp := none
  deriving Repr

structure Metadata where
  annotations : Option (TextMap String) := none
  creationTimestamp : Option Timestamp := none
  deletionGracePeriodSeconds : Option Int64 := none
  deletionTimestamp : Option Timestamp := none
  finalizers : Option (List String) := none
  generateName : Option String := none
  generation : Option Int64 := none
  labels : Option (TextMap String) := none
  managedFields : Option (List ManagedFields) := none
  name : Option String := none
  /-- The namespace. -/
  space : Option String := none
  ownerReferences : Option (List OwnerReference) := none
  resourceVersion : Option String := none
  selfLink : Option String := none
  uid : Option String := none
  deriving Repr

namespace Metadata

/-- The name, or what it is to be made from. -/
def anyName (m : Metadata) : String := (m.name.orElse fun _ => m.generateName).getD ""

def anySpace (m : Metadata) : String := m.space.getD ""

def key (m : Metadata) : ObjectKey := ⟨m.anySpace, m.anyName⟩

def isDeleting (m : Metadata) : Bool := m.deletionTimestamp.isSome

/-- A reference to the object as the controlling owner of another. -/
def asController? (m : Metadata) (apiVersion kind : String) : Option OwnerReference :=
  match m.name, m.uid with
  | some name, some uid => some { apiVersion, kind, name, uid, controller := some true }
  | _, _ => none

end Metadata

def Timestamp.ofJson? (j : Json) : Option Timestamp := j.text?.bind Timestamp.read?

def Timestamp.toJson (t : Timestamp) : Json := .string t.write

def OwnerReference.ofJson? (j : Json) : Option OwnerReference := do
  let values ← j.members?
  some {
    apiVersion := (← lastOf (values "apiVersion") text?).getD ""
    kind := (← lastOf (values "kind") text?).getD ""
    name := (← lastOf (values "name") text?).getD ""
    uid := (← lastOf (values "uid") text?).getD ""
    controller := ← lastOf (values "controller") bool?
    blockOwnerDeletion := ← lastOf (values "blockOwnerDeletion") bool? }

def OwnerReference.toJson (r : OwnerReference) : Json :=
  .record [
    ("apiVersion", some (.string r.apiVersion)),
    ("blockOwnerDeletion", r.blockOwnerDeletion.map .bool),
    ("controller", r.controller.map .bool),
    ("kind", some (.string r.kind)),
    ("name", some (.string r.name)),
    ("uid", some (.string r.uid))]

/-- How deep the fields of `ManagedFields` may nest. -/
def managedDepth : Nat := 123

def ManagedFields.ofJson? (j : Json) : Option ManagedFields := do
  let values ← j.members?
  some {
    apiVersion := ← lastOf (values "apiVersion") text?
    fieldsType := ← lastOf (values "fieldsType") text?
    fields := ← lastOf (values "fieldsV1") (canonical? managedDepth)
    manager := ← lastOf (values "manager") text?
    operation := ← lastOf (values "operation") text?
    subresource := ← lastOf (values "subresource") text?
    time := ← lastOf (values "time") Timestamp.ofJson? }

def ManagedFields.toJson (m : ManagedFields) : Json :=
  .record [
    ("apiVersion", m.apiVersion.map .string),
    ("fieldsType", m.fieldsType.map .string),
    ("fieldsV1", m.fields),
    ("manager", m.manager.map .string),
    ("operation", m.operation.map .string),
    ("subresource", m.subresource.map .string),
    ("time", m.time.map Timestamp.toJson)]

namespace Metadata

def ofJson? (j : Json) : Option Metadata := do
  let values ← j.members?
  some {
    annotations := ← lastOf (values "annotations") (textMap? text?)
    creationTimestamp := ← lastOf (values "creationTimestamp") Timestamp.ofJson?
    deletionGracePeriodSeconds := ← lastOf (values "deletionGracePeriodSeconds") int64?
    deletionTimestamp := ← lastOf (values "deletionTimestamp") Timestamp.ofJson?
    finalizers := ← lastOf (values "finalizers") texts?
    generateName := ← lastOf (values "generateName") text?
    generation := ← lastOf (values "generation") int64?
    labels := ← lastOf (values "labels") (textMap? text?)
    managedFields := ← lastOf (values "managedFields") (list? ManagedFields.ofJson?)
    name := ← lastOf (values "name") text?
    space := ← lastOf (values "namespace") text?
    ownerReferences := ← lastOf (values "ownerReferences") (list? OwnerReference.ofJson?)
    resourceVersion := ← lastOf (values "resourceVersion") text?
    selfLink := ← lastOf (values "selfLink") text?
    uid := ← lastOf (values "uid") text? }

def toJson (m : Metadata) : Json :=
  .record [
    ("annotations", m.annotations.map (ofTextMap .string)),
    ("creationTimestamp", m.creationTimestamp.map Timestamp.toJson),
    ("deletionGracePeriodSeconds", m.deletionGracePeriodSeconds.map fun n => .ofInt n.toInt),
    ("deletionTimestamp", m.deletionTimestamp.map Timestamp.toJson),
    ("finalizers", m.finalizers.map .ofTexts),
    ("generateName", m.generateName.map .string),
    ("generation", m.generation.map fun n => .ofInt n.toInt),
    ("labels", m.labels.map (ofTextMap .string)),
    ("managedFields", m.managedFields.map fun l => .array (l.map ManagedFields.toJson)),
    ("name", m.name.map .string),
    ("namespace", m.space.map .string),
    ("ownerReferences", m.ownerReferences.map fun l => .array (l.map OwnerReference.toJson)),
    ("resourceVersion", m.resourceVersion.map .string),
    ("selfLink", m.selfLink.map .string),
    ("uid", m.uid.map .string)]

end Metadata

end CachePartition
