import CachePartition.Reconcile.Synchronization

/-! The whole treatment of a workload: synchronization, its status, and the pods that have to go. -/
namespace CachePartition

open Pass

/-- Writes the status unless it is the one the workload carries. -/
def writeStatus (w : Workload) (status : WorkloadStatus) : Attempt SyncError Unit :=
  if w.status = some status then return ()
  else orReport (perform (.cluster (.replaceWorkloadStatus w status))) fun e =>
    ⟨.status w.name, [.cluster e]⟩

/-- Deletes a pod; a failure is left for the next pass. -/
def evict (e : Eviction) : Pass Unit := do
  let _ ← perform (.cluster (.deletePod e.space e.pod))
  return ()

/-- Synchronizes a workload, writes its status and then evicts. Fails if any node has to be tried
again. -/
def syncAndEvict (scheme : Scheme) (w : Workload) : Attempt SyncError Unit := do
  let report ← sync scheme w
  writeStatus w report.status
  ExceptT.lift (report.evictions.forM evict)
  if report.failedNodes.isEmpty then return () else fail ⟨.nodesFailed report.failedNodes, []⟩

end CachePartition
