import CachePartition.Reconcile.Address

/-! Bringing the daemons in line with a workload. Each targeted node gets the entry created or updated,
every other node with a node state loses it. A daemon's entries are listed before each change; ids from
the status are not trusted. -/
namespace CachePartition

open Pass

/-- What happened to the entry on a node. -/
inductive EntryChange where
  | created
  | updated
  /-- The daemon did not take the entry. -/
  | rejected
  deriving DecidableEq, Repr

/-- The outcome on a node, and the change behind it. -/
structure NodeResult where
  outcome : NodeOutcome
  change : EntryChange
  deriving DecidableEq, Repr

/-- A pod that has to go because its workload was rejected. -/
structure Eviction where
  pod : String
  /-- The namespace. -/
  space : String
  deriving DecidableEq, Repr

structure SyncReport where
  status : WorkloadStatus := {}
  evictions : List Eviction := []
  failedNodes : List String := []
  deriving DecidableEq, Repr

namespace Workload

def uuid (w : Workload) : String := externalId w.name w.space

/-- The eviction due if a daemon rejects the workload. -/
def eviction? (w : Workload) : Option Eviction :=
  (podOfWorkload? w.name).map fun pod => ⟨pod, w.space⟩

end Workload

/-- The namespaces of node states by node; the last of several counts. -/
def spacesByNode (nodeStates : List NodeState) : TextMap String :=
  .ofList (nodeStates.map fun n => (n.node, n.space))

/-- The outcome of an entry that the daemon lists. -/
def NodeOutcome.ofEntry (response : String) (e : Entry) : NodeOutcome :=
  ⟨response, e.id, e.className, e.status⟩

/-- A daemon call for a node. -/
def callDaemon {α : Type} (node : String) (p : Pass (Except DaemonError α)) :
    Attempt SyncError α :=
  orReport p fun e => ⟨.daemon node, [.daemon e]⟩

def listEntries (node address : String) : Attempt SyncError (List Entry) :=
  callDaemon node (perform (.daemon (.list address)))

/-- The number of CPUs of a node. -/
def nodeCpus (node : String) : Attempt SyncError Nat := do
  let failure (e : ClusterError) : Report SyncError := ⟨.nodeCores node, [.cluster e]⟩
  let object? ← orReport (perform (.cluster (.node node))) failure
  match object? with
  | none => fail (failure (.noNode node))
  | some object =>
    match object.cpuCount? with
    | none => fail (failure (.noCpuCapacity node))
    | some count => return count

/-- The cores of a workload on a node. Only if all are asked for is the node looked up. -/
def resolveCores (spec : WorkloadSpec) (node : String) : Attempt SyncError (List String) := do
  match spec.coreSelection with
  | .explicit cores => return cores
  | .allExcept reserved => return CoreSelection.resolve (← nodeCpus node) (.allExcept reserved)

/-- Creates the entry and looks for it in the daemon's list. -/
def createEntry (node address : String) (body : Entry) : Attempt SyncError NodeResult := do
  let created ← ExceptT.lift (perform (.daemon (.create address body)))
  match created with
  | .error (.rejected status text) =>
    return ⟨{ response := (DaemonError.rejected status text).message }, .rejected⟩
  | .error e => fail ⟨.daemon node, [.daemon e]⟩
  | .ok response =>
    let entries ← listEntries node address
    match Entry.findByUuid entries body.uuid with
    | some e => return ⟨.ofEntry response e, .created⟩
    | none => return ⟨{ response }, .rejected⟩

/-- Creates or updates the entry of a workload on a node. -/
def syncNode (scheme : Scheme) (w : Workload) (node space : String) :
    Attempt SyncError NodeResult := do
  let address ← daemonAddress scheme node space
  let cores ← resolveCores w.spec node
  let body := Entry.ofSpec w.uuid cores w.spec
  let entries ← listEntries node address
  match Entry.findByUuid entries w.uuid with
  | some e =>
    let response ← callDaemon node (perform (.daemon (.update address e.id body)))
    return ⟨.ofEntry response e, .updated⟩
  | none => createEntry node address body

/-- Deletes the entry of a workload from a node and tells whether there was one. -/
def removeFromNode (scheme : Scheme) (uuid node space : String) : Attempt SyncError Bool := do
  let address ← daemonAddress scheme node space
  let entries ← listEntries node address
  match Entry.findByUuid entries uuid with
  | none => return false
  | some e =>
    callDaemon node (perform (.daemon (.delete address e.id)))
    return true

namespace SyncReport

/-- Records what became of a targeted node. A failure keeps what else was known of the node. -/
def record (r : SyncReport) (w : Workload) (node : String) :
    Except (Report SyncError) NodeResult → SyncReport
  | .ok result =>
    { status := ⟨r.status.nodes.insert node result.outcome⟩
      evictions := r.evictions ++ if result.change = .rejected then w.eviction?.toList else []
      failedNodes := r.failedNodes ++ if result.change = .rejected then [node] else [] }
  | .error report =>
    let known := r.status.nodes.getD node {}
    { r with
      status := ⟨r.status.nodes.insert node { known with response := report.summary }⟩
      failedNodes := r.failedNodes ++ [node] }

/-- Records what became of a node that is no target. -/
def recordSweep (r : SyncReport) (node : String) : Except (Report SyncError) Bool → SyncReport
  | .ok _ => { r with status := ⟨r.status.nodes.erase node⟩ }
  | .error _ => { r with failedNodes := r.failedNodes ++ [node] }

/-- Keeps the outcomes of nodes that are targets or have a node state. -/
def retain (r : SyncReport) (targets : TextSet) (spaces : TextMap String) : SyncReport :=
  { r with
    status := ⟨r.status.nodes.filter fun node _ => targets.contains node || spaces.contains node⟩ }

end SyncReport

/-- Brings one target in line. -/
def syncTarget (scheme : Scheme) (w : Workload) (spaces : TextMap String) (r : SyncReport)
    (node : String) : Pass SyncReport := do
  let result ← match spaces.get? node with
    | some space => (syncNode scheme w node space).run
    | none => pure (.error ⟨.noNodeState node, []⟩)
  return r.record w node result

/-- Removes the entry from one node unless it is a target. -/
def sweepNode (scheme : Scheme) (w : Workload) (targets : TextSet) (r : SyncReport)
    (n : NodeState) : Pass SyncReport := do
  if targets.contains n.node then return r else
  let result ← (removeFromNode scheme w.uuid n.node n.space).run
  return r.recordSweep n.node result

/-- All node states. -/
def listNodeStates : Attempt SyncError (List NodeState) :=
  orReport (perform (.cluster .nodeStates)) fun e => ⟨.listNodeStates, [.cluster e]⟩

/-- One pass over the targets and then over all other nodes. Failures of single nodes are part of the
report. -/
def sync (scheme : Scheme) (w : Workload) : Attempt SyncError SyncReport := do
  let nodeStates ← listNodeStates
  let spaces := spacesByNode nodeStates
  let targets := w.spec.targets
  let start : SyncReport := { status := w.status.getD {} }
  let synced ← ExceptT.lift (targets.toList.foldlM (syncTarget scheme w spaces) start)
  ExceptT.lift (nodeStates.foldlM (sweepNode scheme w targets) (synced.retain targets spaces))

/-- Removes the entry from one node; a node where that fails is added to those given. -/
def removeStep (scheme : Scheme) (uuid : String) (failed : List String) (n : NodeState) :
    Pass (List String) := do
  match ← (removeFromNode scheme uuid n.node n.space).run with
  | .ok _ => return failed
  | .error _ => return failed ++ [n.node]

/-- Removes the entry of a workload from every node with a node state. -/
def remove (scheme : Scheme) (w : Workload) : Attempt SyncError Unit := do
  let nodeStates ← listNodeStates
  let failed ← ExceptT.lift (nodeStates.foldlM (removeStep scheme w.uuid) [])
  if failed.isEmpty then return () else fail ⟨.nodesFailed failed, []⟩

end CachePartition
