import CachePartition.Pass

/-! Giving each node that may run a daemon its node state. -/
namespace CachePartition

open Pass

def ensureNodeState (space : String) (node : Node) : Attempt SyncError Unit :=
  orReport (perform (.cluster (.ensureNodeState space node))) fun e =>
    ⟨.registerNode node.name, [.cluster e]⟩

end CachePartition
