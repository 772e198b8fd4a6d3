import CachePartition.Reconcile.Application
import CachePartition.Reconcile.Eviction
import CachePartition.Reconcile.Polling
import CachePartition.World.Basic

/-! Scenarios: worlds that are changed from outside and in which passes run. -/
namespace CachePartition

/-- Which status a workload is given before a pass. -/
inductive StatusSource where
  /-- The one it carries. -/
  | own
  /-- That of the last synchronization that succeeded. -/
  | last
  /-- The one stored in the cluster. -/
  | stored
  deriving DecidableEq, Repr

/-- A step of a scenario. -/
inductive Step where
  | addDaemonNode (node space ip : String) (cpus : Nat)
  | addNodeState (n : NodeState)
  | removeNodeState (node : String)
  | addPod (p : Pod)
  | addNode (n : Node)
  | apiDown (value : Bool)
  | failCluster (m : ClusterMethod) (times : Nat)
  | insert (address uuid : String)
  | forgetEntry (address uuid : String)
  | createBehaviour (address : String) (b : CreateBehaviour)
  | unreachable (address : String) (value : Bool)
  | cacheReport (address : String) (r : CacheReport)
  | script (m : DaemonMethod) (address : String) (answers : List Script)
  | podCpus (pods : Except IntrospectionError (List PodCpus))
  | register (node : String)
  | unregister (node : String)
  | sync (w : Workload) (source : StatusSource)
  | remove (w : Workload) (source : StatusSource)
  | syncAndEvict (w : Workload) (source : StatusSource)
  | poll (n : NodeState)
  | forget (n : NodeState)
  | deriveAndApply (p : Pod) (agentPod : String)

/-- What a step shows. -/
inductive StepResult where
  | nothing
  | id (s : String)
  | changed (b : Bool)
  | synced (r : Except (Report SyncError) SyncReport)
  | settled (r : Except (Report SyncError) Unit)
  | polled (r : Except (Report SyncError) NodeStateStatus)
  | applied (r : Except (Report SyncError) Nat)

/-- A world, how its daemons are spoken to, and the last status of a synchronization. -/
structure Scenario where
  scheme : Scheme := .http
  world : World := {}
  lastStatus : Option WorkloadStatus := none

/-- The result of a step, the calls it made and the scenario it leaves. -/
structure StepOutcome where
  result : StepResult
  calls : List Call := []
  next : Scenario

namespace Scenario

def setDaemons (s : Scenario) (f : Daemons → Daemons) : Scenario :=
  { s with world := { s.world with daemons := f s.world.daemons } }

def setCluster (s : Scenario) (f : Cluster → Cluster) : Scenario :=
  { s with world := { s.world with cluster := f s.world.cluster } }

def setFaults (s : Scenario) (f : Faults → Faults) : Scenario :=
  { s with world := { s.world with faults := f s.world.faults } }

def setRegistry (s : Scenario) (f : Registry → Registry) : Scenario :=
  { s with world := { s.world with registry := f s.world.registry } }

/-- The workload with the status it is to have. -/
def withStatus (s : Scenario) (w : Workload) : StatusSource → Workload
  | .own => w
  | .last => { w with status := s.lastStatus }
  | .stored => { w with status := s.world.cluster.workloadStatuses.get? w.key }

/-- Runs a pass in the scenario's world. -/
def run {α : Type} (s : Scenario) (p : Pass α) (show_ : α → StepResult) : StepOutcome :=
  let o := s.world.run p
  ⟨show_ o.value, o.trace.map (·.call), { s with world := o.state }⟩

/-- A change from outside. -/
def changed (next : Scenario) (result : StepResult := .nothing) : StepOutcome := ⟨result, [], next⟩

def step (s : Scenario) : Step → StepOutcome
  | .addDaemonNode node space ip cpus =>
    changed (s.setCluster fun k => k.addDaemonNode node space ip cpus)
  | .addNodeState n => changed (s.setCluster fun k => k.addNodeState n)
  | .removeNodeState node => changed (s.setCluster fun k => k.removeNodeState node)
  | .addPod p => changed (s.setCluster fun k => k.addPod p)
  | .addNode n => changed (s.setCluster fun k => k.addNode n)
  | .apiDown value => changed (s.setCluster fun k => { k with isDown := value })
  | .failCluster m times => changed (s.setFaults fun f => f.setFailures m times)
  | .insert address uuid =>
    changed (s.setDaemons fun d => d.insert address uuid) (.id s.world.daemons.nextId)
  | .forgetEntry address uuid => changed (s.setDaemons fun d => d.forget address uuid)
  | .createBehaviour address b => changed (s.setDaemons fun d => d.setBehaviour address b)
  | .unreachable address value => changed (s.setDaemons fun d => d.setUnreachable address value)
  | .cacheReport address r => changed (s.setDaemons fun d => d.setReport address r)
  | .script m address answers => changed (s.setFaults fun f => f.addScripts m address answers)
  | .podCpus pods => changed { s with world := { s.world with podCpus := pods } }
  | .register node =>
    changed (s.setRegistry fun r => r.add node) (.changed (!s.world.registry.contains node))
  | .unregister node =>
    changed (s.setRegistry fun r => r.remove node) (.changed (s.world.registry.contains node))
  | .sync w source =>
    let o := s.world.run (CachePartition.sync s.scheme (s.withStatus w source)).run
    let lastStatus := match o.value with
      | .ok r => some r.status
      | .error _ => s.lastStatus
    ⟨.synced o.value, o.trace.map (·.call), { s with world := o.state, lastStatus }⟩
  | .remove w source => s.run (CachePartition.remove s.scheme (s.withStatus w source)).run .settled
  | .syncAndEvict w source =>
    s.run (CachePartition.syncAndEvict s.scheme (s.withStatus w source)).run .settled
  | .poll n => s.run (CachePartition.poll s.scheme n).run .polled
  | .forget n => s.run (CachePartition.forget n) fun _ => .nothing
  | .deriveAndApply p agentPod =>
    s.run (CachePartition.deriveAndApply p agentPod).run .applied

end Scenario

end CachePartition
