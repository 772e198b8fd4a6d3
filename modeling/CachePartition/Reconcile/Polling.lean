import CachePartition.Entry.Snapshot
import CachePartition.Reconcile.Address

/-! Showing in a node state what the daemon of its node holds. -/
namespace CachePartition

open Pass

/-- Snapshots of entries by id; the last of several entries with one id counts. -/
def snapshots (entries : List Entry) : TextMap Snapshot :=
  .ofList (entries.map fun e => (e.id, e.snapshot))

/-- The available ways of a report, if they have a total. -/
def availableWays? (r : CacheReport) : Option UInt64 :=
  r.totalWays.toOption.map .ofNat

/-- Replaces the status of a node state by what its daemon reports now. What the daemon does not tell
is left empty. -/
def poll (scheme : Scheme) (n : NodeState) : Attempt SyncError NodeStateStatus := do
  ExceptT.lift (perform (.enlist n.node))
  let address ← daemonAddress scheme n.node n.space
  let entries ← ExceptT.lift (perform (.daemon (.list address)))
  let report ← ExceptT.lift (perform (.daemon (.cacheReport address)))
  let status : NodeStateStatus := {
    entries := snapshots (entries.toOption.getD [])
    availableWays := report.toOption.bind availableWays? }
  orReport (perform (.cluster (.replaceNodeStateStatus n status))) fun e =>
    ⟨.status n.name, [.cluster e]⟩
  return status

/-- Takes the node of a node state out of the registry. -/
def forget (n : NodeState) : Pass Unit := perform (.dismiss n.node)

end CachePartition
