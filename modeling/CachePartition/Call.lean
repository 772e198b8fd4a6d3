import CachePartition.CacheReport.Basic
import CachePartition.Entry.Basic
import CachePartition.Failure
import CachePartition.Kubernetes.Node
import CachePartition.NodeState.Basic
import CachePartition.PodCpus.Basic
import CachePartition.Workload.Basic

/-! What a pass asks of its surroundings, and what it may be answered. -/
namespace CachePartition

/-- A request to the daemon at an address. -/
inductive DaemonCall where
  | list (address : String)
  | create (address : String) (body : Entry)
  | update (address id : String) (body : Entry)
  | delete (address id : String)
  | cacheReport (address : String)
  deriving DecidableEq, Repr

/-- A request to the cluster. -/
inductive ClusterCall where
  | nodeStates
  | pod (space name : String)
  | node (name : String)
  | deletePod (space name : String)
  | replaceWorkloadStatus (workload : Workload) (status : WorkloadStatus)
  | replaceNodeStateStatus (nodeState : NodeState) (status : NodeStateStatus)
  | applyWorkload (workload : Workload)
  /-- Looks a pod up in all namespaces that are not the system's. -/
  | findPod (name : String)
  /-- Creates the node state of a node in a namespace unless there is one. -/
  | ensureNodeState (space : String) (node : Node)
  deriving Repr

inductive Call where
  | daemon (c : DaemonCall)
  | cluster (c : ClusterCall)
  /-- Lists the CPUs pinned to the containers of this node. -/
  | podCpus
  /-- Adds a node to the registry. -/
  | enlist (node : String)
  /-- Takes a node out of the registry. -/
  | dismiss (node : String)
  deriving Repr

abbrev DaemonCall.Answer : DaemonCall → Type
  | .list _ => Except DaemonError (List Entry)
  | .create _ _ => Except DaemonError String
  | .update _ _ _ => Except DaemonError String
  | .delete _ _ => Except DaemonError Unit
  | .cacheReport _ => Except DaemonError CacheReport

abbrev ClusterCall.Answer : ClusterCall → Type
  | .nodeStates => Except ClusterError (List NodeState)
  | .pod _ _ => Except ClusterError (Option Pod)
  | .node _ => Except ClusterError (Option Node)
  | .deletePod _ _ => Except ClusterError Unit
  | .replaceWorkloadStatus _ _ => Except ClusterError Unit
  | .replaceNodeStateStatus _ _ => Except ClusterError Unit
  | .applyWorkload _ => Except ClusterError Unit
  | .findPod _ => Except ClusterError (Option Pod)
  | .ensureNodeState _ _ => Except ClusterError Unit

abbrev Call.Answer : Call → Type
  | .daemon c => c.Answer
  | .cluster c => c.Answer
  | .podCpus => Except IntrospectionError (List PodCpus)
  | .enlist _ => Unit
  | .dismiss _ => Unit

namespace DaemonCall

def address : DaemonCall → String
  | .list a => a
  | .create a _ => a
  | .update a _ _ => a
  | .delete a _ => a
  | .cacheReport a => a

/-- The answer of a call that failed. -/
def failed (c : DaemonCall) (e : DaemonError) : c.Answer :=
  match c with
  | .list _ => .error e
  | .create _ _ => .error e
  | .update _ _ _ => .error e
  | .delete _ _ => .error e
  | .cacheReport _ => .error e

end DaemonCall

/-- The answer of a call that failed. -/
def ClusterCall.failed (c : ClusterCall) (e : ClusterError) : c.Answer :=
  match c with
  | .nodeStates => .error e
  | .pod _ _ => .error e
  | .node _ => .error e
  | .deletePod _ _ => .error e
  | .replaceWorkloadStatus _ _ => .error e
  | .replaceNodeStateStatus _ _ => .error e
  | .applyWorkload _ => .error e
  | .findPod _ => .error e
  | .ensureNodeState _ _ => .error e

end CachePartition
