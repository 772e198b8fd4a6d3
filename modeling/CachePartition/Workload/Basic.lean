import CachePartition.Kubernetes.Resource
import CachePartition.Workload.SpecCodec
import CachePartition.Workload.Status

/-! Workloads: the wish that some nodes hold a partition, and what became of it. -/
namespace CachePartition

structure Workload where
  metadata : Metadata
  spec : WorkloadSpec
  status : Option WorkloadStatus := none
  deriving Repr

namespace Workload

def name (w : Workload) : String := w.metadata.anyName

/-- The namespace, empty if there is none. -/
def space (w : Workload) : String := w.metadata.anySpace

def key (w : Workload) : ObjectKey := w.metadata.key

def toJson (w : Workload) : Json :=
  resourceJson "RmdWorkload" w.metadata w.spec.toJson (w.status.map WorkloadStatus.toJson)

def ofJson? (j : Json) : Option Workload :=
  (resourceOfJson? WorkloadSpec.ofJson? WorkloadStatus.ofJson? j).map fun r =>
    ⟨r.1, r.2.1, r.2.2⟩

end Workload

end CachePartition
