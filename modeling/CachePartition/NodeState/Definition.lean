import CachePartition.Kubernetes.Definition
import CachePartition.NodeState.Basic

/-! The definition of the kind of resource that node states are. -/
namespace CachePartition

def NodeStateSpec.schema : Schema :=
  .record [
    ("node", .text { description := some "Name of the node this state mirrors" }),
    ("nodeUid", .text {})] ["node"] {
      description := some "Per-node mirror of the entries live on that node's RMD daemon." }

def NodeStateStatus.schema : Schema :=
  .record [
    ("availableCacheWays", .count "uint64" {
      description := some "Sum of available L3 cache ways over every cache of the node"
      nullable := true }),
    ("workloads", .map (.map (.text {}) {}) {
      description := some ("Daemon entry id -> flattened snapshot of that entry.\n\n" ++
        "Replaced wholesale on every poll, never merged.")
      default := some (.object []) })] [] { nullable := true }

def NodeState.definition : ResourceDefinition where
  kind := "RmdNodeState"
  plural := "rmdnodestates"
  singular := "rmdnodestate"
  shortName := "rmdns"
  spec := NodeStateSpec.schema
  status := NodeStateStatus.schema

end CachePartition
