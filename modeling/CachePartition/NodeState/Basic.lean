import CachePartition.Entry.Snapshot
import CachePartition.Json.Codec
import CachePartition.Kubernetes.Resource

/-! Node states: one object for each node with a daemon, and what that daemon reports. -/
namespace CachePartition

open Json

structure NodeStateSpec where
  node : String
  nodeUid : String := ""
  deriving DecidableEq, Repr

/-- The entries of the daemon by id, and the cache ways still available. -/
structure NodeStateStatus where
  entries : TextMap Snapshot := SortedMap.empty
  availableWays : Option UInt64 := none
  deriving DecidableEq, Repr

structure NodeState where
  metadata : Metadata
  spec : NodeStateSpec
  status : Option NodeStateStatus := none
  deriving Repr

def NodeStateSpec.toJson (s : NodeStateSpec) : Json :=
  .record [("node", some (.string s.node)), ("nodeUid", unlessEmpty s.nodeUid)]

def NodeStateSpec.ofJson? (j : Json) : Option NodeStateSpec := do
  let field ← j.record? ["node", "nodeUid"]
  some {
    node := ← required (field "node") text?
    nodeUid := ← orElse (field "nodeUid") text? "" }

def NodeStateStatus.toJson (s : NodeStateStatus) : Json :=
  .record [("workloads", some (ofTextMap (ofTextMap .string) s.entries)),
    ("availableCacheWays", s.availableWays.map fun n => .ofNat n.toNat)]

def NodeStateStatus.ofJson? (j : Json) : Option NodeStateStatus := do
  let field ← j.record? ["workloads", "availableCacheWays"]
  some {
    entries := ← orElse (field "workloads") (textMap? (textMap? text?)) SortedMap.empty
    availableWays := ← maybe (field "availableCacheWays") uint64? }

namespace NodeState

def name (n : NodeState) : String := n.metadata.anyName

/-- The namespace, empty if there is none. -/
def space (n : NodeState) : String := n.metadata.anySpace

def key (n : NodeState) : ObjectKey := n.metadata.key

/-- The name of the node. -/
def node (n : NodeState) : String := n.spec.node

def toJson (n : NodeState) : Json :=
  resourceJson "RmdNodeState" n.metadata n.spec.toJson (n.status.map NodeStateStatus.toJson)

def ofJson? (j : Json) : Option NodeState :=
  (resourceOfJson? NodeStateSpec.ofJson? NodeStateStatus.ofJson? j).map fun r =>
    ⟨r.1, r.2.1, r.2.2⟩

end NodeState

end CachePartition
