import CachePartition.CacheReport.Codec
import CachePartition.Call
import CachePartition.Entry.Codec

/-! Answers laid down in advance: failures of cluster calls by count, and answers of daemons by call and
address. -/
namespace CachePartition

inductive DaemonMethod where
  | list
  | create
  | update
  | delete
  | cacheReport
  deriving DecidableEq, Repr

inductive ClusterMethod where
  | nodeStates
  | pod
  | node
  | deletePod
  | replaceWorkloadStatus
  | replaceNodeStateStatus
  | applyWorkload
  | findPod
  | ensureNodeState
  deriving DecidableEq, Repr

namespace DaemonMethod

def all : List DaemonMethod := [list, create, update, delete, cacheReport]

def name : DaemonMethod → String
  | list => "get_workloads"
  | create => "create_workload"
  | update => "update_workload"
  | delete => "delete_workload"
  | cacheReport => "get_l3_cache"

def ofName? (s : String) : Option DaemonMethod := all.find? fun m => m.name = s

end DaemonMethod

namespace ClusterMethod

def all : List ClusterMethod :=
  [nodeStates, pod, node, deletePod, replaceWorkloadStatus, replaceNodeStateStatus, applyWorkload,
    findPod, ensureNodeState]

def name : ClusterMethod → String
  | nodeStates => "list_node_states"
  | pod => "get_pod"
  | node => "get_node"
  | deletePod => "delete_pod"
  | replaceWorkloadStatus => "replace_workload_status"
  | replaceNodeStateStatus => "replace_node_state_status"
  | applyWorkload => "apply_workload"
  | findPod => "find_pod_outside_system_namespaces"
  | ensureNodeState => "ensure_node_state"

def ofName? (s : String) : Option ClusterMethod := all.find? fun m => m.name = s

end ClusterMethod

def DaemonCall.method : DaemonCall → DaemonMethod
  | .list _ => .list
  | .create _ _ => .create
  | .update _ _ _ => .update
  | .delete _ _ => .delete
  | .cacheReport _ => .cacheReport

def ClusterCall.method : ClusterCall → ClusterMethod
  | .nodeStates => .nodeStates
  | .pod _ _ => .pod
  | .node _ => .node
  | .deletePod _ _ => .deletePod
  | .replaceWorkloadStatus _ _ => .replaceWorkloadStatus
  | .replaceNodeStateStatus _ _ => .replaceNodeStateStatus
  | .applyWorkload _ => .applyWorkload
  | .findPod _ => .findPod
  | .ensureNodeState _ _ => .ensureNodeState

/-- An answer laid down for a daemon: a failure, or a value that has to decode. -/
inductive Script where
  | fail (e : DaemonError)
  | value (j : Json)
  deriving Repr

/-- A decoded value, or the error for one that does not decode. -/
def decoded {α : Type} (value : Option α) : Except DaemonError α :=
  value.elim (.error .decode) .ok

/-- The answer that a script gives to a call. -/
def Script.answer (c : DaemonCall) : Script → c.Answer
  | .fail e => c.failed e
  | .value j =>
    match c with
    | .list _ => decoded (j.list? Entry.ofJson?)
    | .create _ _ => decoded j.text?
    | .update _ _ _ => decoded j.text?
    | .delete _ _ => .ok ()
    | .cacheReport _ => decoded (CacheReport.ofJson? j)

structure Faults where
  /-- How many of the next calls of a method fail. -/
  failures : ClusterMethod → Nat := fun _ => 0
  /-- The answers laid down for a method, by address. -/
  scripts : DaemonMethod → TextMap (List Script) := fun _ => SortedMap.empty

namespace Faults

def setFailures (f : Faults) (m : ClusterMethod) (times : Nat) : Faults :=
  { f with failures := fun m' => if m' = m then times else f.failures m' }

def scriptsAt (f : Faults) (m : DaemonMethod) (address : String) : List Script :=
  (f.scripts m).getD address []

def setScripts (f : Faults) (m : DaemonMethod) (address : String) (l : List Script) : Faults :=
  { f with scripts := fun m' => if m' = m then (f.scripts m).insert address l else f.scripts m' }

def addScripts (f : Faults) (m : DaemonMethod) (address : String) (l : List Script) : Faults :=
  f.setScripts m address (f.scriptsAt m address ++ l)

end Faults

end CachePartition
