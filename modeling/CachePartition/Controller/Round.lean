import CachePartition.Cluster.Path
import CachePartition.Controller.Finalizer
import CachePartition.Reconcile.Application
import CachePartition.Reconcile.Eviction
import CachePartition.Reconcile.Labeling
import CachePartition.Reconcile.Polling

/-! What each controller does for an object once it is its turn. -/
namespace CachePartition

open Pass

/-- A change of the finalizers of the object at a path. -/
structure ObjectChange where
  path : String
  change : FinalizerChange
  deriving DecidableEq, Repr

/-- A turn of an object: the work, the change due if that succeeds, and whether an object that is
done has another turn. -/
structure Round where
  work : Pass Bool := .done true
  change : Option ObjectChange := none
  repeats : Bool := false

/-- Whether an attempt succeeds. -/
def succeeds {ε α : Type} (p : Attempt ε α) : Pass Bool := do
  let r ← p.run
  return r.toBool

namespace Round

/-- The turn of an object that has a finalizer. An object without a name has no path to change it
under. -/
def finalized (m : Metadata) (finalizer : String) (path : String → String) (apply cleanup : Round) :
    Round :=
  match m.finalizerStage finalizer, m.name with
  | .live, _ => apply
  | .released, _ => {}
  | .unmarked change, some name => { change := some ⟨path name, change⟩ }
  | .leaving change, some name => { cleanup with change := some ⟨path name, change⟩ }
  | .unmarked _, none => { work := .done false }
  | .leaving _, none => { work := .done false }

/-- Daemons follow the workload, and lose it when it goes. -/
def workload (scheme : Scheme) (w : Workload) : Round :=
  finalized w.metadata workloadFinalizer (Api.workloadPath w.space)
    { work := succeeds (syncAndEvict scheme w) } { work := succeeds (remove scheme w) }

/-- The daemon of a node is polled again and again. -/
def nodeState (scheme : Scheme) (n : NodeState) : Round :=
  finalized n.metadata nodeStateFinalizer (Api.nodeStatePath n.space)
    { work := succeeds (poll scheme n), repeats := true }
    { work := do
        forget n
        return true }

def node (space : String) (n : Node) : Round :=
  if n.metadata.isDeleting then {} else { work := succeeds (ensureNodeState space n) }

def pod (agentPod : String) (p : Pod) : Round :=
  if p.metadata.isDeleting then {} else { work := succeeds (deriveAndApply p agentPod) }

end Round

end CachePartition
