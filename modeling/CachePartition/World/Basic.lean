import CachePartition.Pass
import CachePartition.Registry
import CachePartition.World.Cluster
import CachePartition.World.Daemons
import CachePartition.World.Faults

/-! A world for passes to run in: daemons, a cluster, the CPUs pinned on a node, a registry, and the
faults laid down. -/
namespace CachePartition

structure World where
  daemons : Daemons := {}
  cluster : Cluster := {}
  registry : Registry := {}
  podCpus : Except IntrospectionError (List PodCpus) := .ok []
  faults : Faults := {}

namespace World

/-- A daemon call takes the next script for it, if there is one, and reaches the daemon otherwise. -/
def answerDaemon (w : World) (c : DaemonCall) : c.Answer × World :=
  match w.faults.scriptsAt c.method c.address with
  | s :: rest => (s.answer c, { w with faults := w.faults.setScripts c.method c.address rest })
  | [] =>
    let r := w.daemons.answer c
    (r.1, { w with daemons := r.2 })

/-- A cluster call uses up one of the failures laid down for it, if any are left. -/
def answerCluster (w : World) (c : ClusterCall) : c.Answer × World :=
  match w.faults.failures c.method with
  | n + 1 =>
    (c.failed (.api ("injected " ++ c.method.name)),
      { w with faults := w.faults.setFailures c.method n })
  | 0 =>
    let r := w.cluster.answer c
    (r.1, { w with cluster := r.2 })

def answer (w : World) : (c : Call) → c.Answer × World
  | .daemon c => w.answerDaemon c
  | .cluster c => w.answerCluster c
  | .podCpus => (w.podCpus, w)
  | .enlist node => ((), { w with registry := w.registry.add node })
  | .dismiss node => ((), { w with registry := w.registry.remove node })

/-- Runs a pass in the world. -/
def run {α : Type} (w : World) (p : Pass α) : Pass.Outcome World α := p.run answer w

end World

end CachePartition
