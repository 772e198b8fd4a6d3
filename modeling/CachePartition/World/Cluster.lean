import CachePartition.Call
import CachePartition.Naming

/-! A cluster held in memory. -/
namespace CachePartition

structure Cluster where
  nodeStates : List NodeState := []
  pods : SortedMap ObjectKey Pod := SortedMap.empty
  nodes : TextMap Node := SortedMap.empty
  workloadStatuses : SortedMap ObjectKey WorkloadStatus := SortedMap.empty
  nodeStateStatuses : SortedMap ObjectKey NodeStateStatus := SortedMap.empty
  applied : SortedMap ObjectKey Workload := SortedMap.empty
  deletedPods : List ObjectKey := []
  isDown : Bool := false

/-- A fresh node state for a node. -/
def NodeState.fresh (node space : String) : NodeState :=
  { metadata := { name := some (nodeStateName node), space := some space }
    spec := { node, nodeUid := node ++ "-uid" } }

/-- A daemon pod at an address. -/
def Pod.daemon (node space ip : String) : Pod :=
  { metadata := { name := some (daemonPodName node), space := some space }
    spec := some {
      nodeName := some node
      containers := [{ name := "rmd", ports := some [{ containerPort := .ofInt daemonTlsPort }] }] }
    status := some { podIp := some ip } }

/-- A node with a number of CPUs. -/
def Node.ofCpus (name : String) (cpus : Nat) : Node :=
  { metadata := { name := some name, uid := some (name ++ "-uid") }
    status := some { capacity := some (.ofList [("cpu", Text.decimal cpus)]) } }

namespace Cluster

def addNodeState (k : Cluster) (n : NodeState) : Cluster :=
  { k with nodeStates := k.nodeStates ++ [n] }

def removeNodeState (k : Cluster) (node : String) : Cluster :=
  { k with nodeStates := k.nodeStates.filter fun n => n.node ≠ node }

def addPod (k : Cluster) (p : Pod) : Cluster := { k with pods := k.pods.insert p.key p }

def addNode (k : Cluster) (n : Node) : Cluster := { k with nodes := k.nodes.insert n.name n }

/-- Adds a node with its node state and its daemon pod. -/
def addDaemonNode (k : Cluster) (node space ip : String) (cpus : Nat) : Cluster :=
  ((k.addNodeState (.fresh node space)).addPod (.daemon node space ip)).addNode (.ofCpus node cpus)

/-- The first pod of a name outside the system's namespaces. -/
def findPod? (k : Cluster) (name : String) : Option Pod :=
  (k.pods.entries.find? fun e => e.1.name = name ∧ e.1.space ∉ systemSpaces).map (·.2)

/-- The answer of a cluster that is up. -/
def serve (k : Cluster) : (c : ClusterCall) → c.Answer × Cluster
  | .nodeStates => (.ok k.nodeStates, k)
  | .pod space name => (.ok (k.pods.get? ⟨space, name⟩), k)
  | .node name => (.ok (k.nodes.get? name), k)
  | .deletePod space name =>
    (.ok (), { k with
      pods := k.pods.erase ⟨space, name⟩
      deletedPods := k.deletedPods ++ [⟨space, name⟩] })
  | .replaceWorkloadStatus w status =>
    (.ok (), { k with workloadStatuses := k.workloadStatuses.insert w.key status })
  | .replaceNodeStateStatus n status =>
    (.ok (), { k with nodeStateStatuses := k.nodeStateStatuses.insert n.key status })
  | .applyWorkload w => (.ok (), { k with applied := k.applied.insert w.key w })
  | .findPod name => (.ok (k.findPod? name), k)
  | .ensureNodeState space node =>
    (.ok (), if k.nodeStates.any fun n => n.node = node.name then k
      else k.addNodeState (.fresh node.name space))

def answer (k : Cluster) (c : ClusterCall) : c.Answer × Cluster :=
  if k.isDown then (c.failed (.api "connection refused"), k) else k.serve c

end Cluster

end CachePartition
