import CachePartition.Kubernetes.Definition
import CachePartition.Workload.Basic

/-! The definition of the kind of resource that workloads are. -/
namespace CachePartition

open Schema

namespace CacheBounds

def schema : Schema :=
  .record [("max", .count "uint32" { default := some (.ofNat 0) }),
    ("min", .count "uint32" { default := some (.ofNat 0) })] [] {
      description := some "Cache-way bounds. Zero on both sides means \"not requested\"."
      default := some (toJson {}) }

end CacheBounds

namespace Bandwidth

def schema : Schema :=
  .record [("percentage", .count "uint32" { default := some (.ofNat 0) }),
    ("mbps", .count "uint32" { default := some (.ofNat 0) })] [] {
      description := some "Memory bandwidth allocation. Zero means unset."
      default := some (toJson {}) }

end Bandwidth

def Allocation.schema : Schema :=
  .record [("cache", CacheBounds.schema), ("mba", Bandwidth.schema)] []
    { default := some (toJson {}) }

def PowerState.schema : Schema :=
  .record [("ratio", .text {}), ("monitoring", .text {})] [] { default := some (toJson {}) }

namespace WorkloadSpec

def textsSchema (description : Option String) : Schema :=
  .list (.text {}) { description, default := some (.array []) }

def schema : Schema :=
  .record [
    ("nodes", textsSchema (some "Nodes the entry must exist on")),
    ("cores", textsSchema (some "Explicit core ids, ignored when `all_cores` is set")),
    ("allCores", .flag {
      description := some "Use every core of the node except `reserved_cpus`"
      default := some (.bool false) }),
    ("reservedCpus", textsSchema none),
    ("rdt", Allocation.schema),
    ("policy", .text { description := some "Named daemon policy preset" }),
    ("plugins", .record [("pstate", PowerState.schema)] []
      { default := some (PowerState.toPlugins {}) })] [] {
        description :=
          some "Desired RMD workload: \"this partition configuration should exist on these nodes\"." }

end WorkloadSpec

def NodeOutcome.schema : Schema :=
  let text (description : Option String) : Schema :=
    .text { description, default := some (.string "") }
  .record [
    ("response", text (some "Textual summary of the last daemon response, kept for operators")),
    ("id", text (some "Daemon-issued entry id")),
    ("cosName", text (some "Class-of-service name computed by the daemon")),
    ("status", text none)] [] {
      description := some "Outcome of the last synchronization against one node's daemon." }

def WorkloadStatus.schema : Schema :=
  .record [("workloadStates", .map NodeOutcome.schema { default := some (.object []) })] [] {
    description := some "Status of an [`RmdWorkload`], keyed by node name."
    nullable := true }

def Workload.definition : ResourceDefinition where
  kind := "RmdWorkload"
  plural := "rmdworkloads"
  singular := "rmdworkload"
  shortName := "rmdwl"
  spec := WorkloadSpec.schema
  status := WorkloadStatus.schema

end CachePartition
