import CachePartition.Kubernetes.Pod
import CachePartition.Text.Blank
import CachePartition.Text.Numeral

/-! Nodes, as far as this program looks into them. -/
namespace CachePartition

open Json

structure NodeStatus where
  capacity : Option (TextMap String) := none
  others : OtherFields := []
  deriving Repr

structure Node where
  metadata : Metadata := {}
  spec : Option OtherFields := none
  status : Option NodeStatus := none
  deriving Repr

namespace NodeStatus

def otherFields : List (String × FieldShape) :=
  FieldShape.objects.each ["addresses", "conditions", "images", "volumesAttached"] ++
  FieldShape.object.each ["config", "daemonEndpoints", "nodeInfo"] ++
  [("allocatable", .textMap), ("phase", .text), ("volumesInUse", .texts)]

def ofJson? (j : Json) : Option NodeStatus := do
  let values ← j.members?
  some {
    capacity := ← lastOf (values "capacity") (textMap? text?)
    others := ← otherFields? otherFields values }

def toJson (s : NodeStatus) : Json :=
  withOthers [("capacity", s.capacity.map (ofTextMap .string))] s.others

end NodeStatus

namespace Node

def name (n : Node) : String := n.metadata.anyName

def specFields : List (String × FieldShape) :=
  FieldShape.text.each ["externalID", "podCIDR", "providerID"] ++
  [("configSource", .object), ("podCIDRs", .texts), ("taints", .objects), ("unschedulable", .flag)]

def ofJson? (j : Json) : Option Node := do
  let values ← j.members?
  if isKind "v1" "Node" values then
    some {
      metadata := (← lastOf (values "metadata") Metadata.ofJson?).getD {}
      spec := ← lastOf (values "spec") fun j => j.members?.bind (otherFields? specFields)
      status := ← lastOf (values "status") NodeStatus.ofJson? }
  else none

def toJson (n : Node) : Json :=
  .record [
    ("apiVersion", some (.string "v1")),
    ("kind", some (.string "Node")),
    ("metadata", some n.metadata.toJson),
    ("spec", n.spec.map fun others => withOthers [] others),
    ("status", n.status.map NodeStatus.toJson)]

/-- The number of logical CPUs a node reports, if it is a number of 64 bits. -/
def cpuCount? (n : Node) : Option Nat := do
  let status ← n.status
  let capacity ← status.capacity
  let quantity ← capacity.get? "cpu"
  Text.readDecimal? (1 <<< 64) (Text.trimBlanks quantity.toList)

end Node

end CachePartition
