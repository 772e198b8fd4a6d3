import CachePartition.Derivation.Basic

/-! Deriving the workloads of a pod and writing them to the cluster, as an agent does on its node. -/
namespace CachePartition

open Pass

/-- The address of the host that the agent runs on. -/
def agentHostIp (agentPod : String) : Attempt SyncError String := do
  let pod? ← orReport (perform (.cluster (.findPod agentPod))) fun e =>
    ⟨.agentHost agentPod, [.cluster e]⟩
  match (pod?.bind fun p => p.status.bind (·.hostIp)).filter fun ip => !ip.isEmpty with
  | some ip => return ip
  | none => fail ⟨.agentHost agentPod, []⟩

def applyWorkload (w : Workload) : Attempt SyncError Unit :=
  orReport (perform (.cluster (.applyWorkload w))) fun e => ⟨.apply w.name, [.cluster e]⟩

/-- Derives the workloads of a pod and applies them in order; tells how many there are. -/
def deriveAndApply (pod : Pod) (agentPod : String) : Attempt SyncError Nat := do
  let hostIp ← agentHostIp agentPod
  let workloads ← ExceptT.mk do
    let derived ← (derive pod hostIp).run
    return derived.mapError fun r => r.under .derive (.derive pod.name)
  workloads.forM applyWorkload
  return workloads.length

end CachePartition
