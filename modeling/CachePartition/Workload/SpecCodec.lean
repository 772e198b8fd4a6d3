import CachePartition.Json.Codec
import CachePartition.Workload.Spec

/-! Specifications of workloads as JSON. No field is needed; empty texts that ask for nothing are not
written. -/
namespace CachePartition

open Json

def CacheBounds.toJson (b : CacheBounds) : Json :=
  .object [("max", .ofNat b.max.toNat), ("min", .ofNat b.min.toNat)]

def CacheBounds.ofJson? (j : Json) : Option CacheBounds := do
  let field ← j.record? ["max", "min"]
  some { max := ← orElse (field "max") uint32? 0, min := ← orElse (field "min") uint32? 0 }

def Bandwidth.toJson (b : Bandwidth) : Json :=
  .object [("percentage", .ofNat b.percentage.toNat), ("mbps", .ofNat b.mbps.toNat)]

def Bandwidth.ofJson? (j : Json) : Option Bandwidth := do
  let field ← j.record? ["percentage", "mbps"]
  some {
    percentage := ← orElse (field "percentage") uint32? 0
    mbps := ← orElse (field "mbps") uint32? 0 }

def Allocation.toJson (a : Allocation) : Json :=
  .object [("cache", a.cache.toJson), ("mba", a.bandwidth.toJson)]

def Allocation.ofJson? (j : Json) : Option Allocation := do
  let field ← j.record? ["cache", "mba"]
  some {
    cache := ← orElse (field "cache") CacheBounds.ofJson? {}
    bandwidth := ← orElse (field "mba") Bandwidth.ofJson? {} }

def PowerState.toJson (p : PowerState) : Json :=
  .record [("ratio", unlessEmpty p.ratio), ("monitoring", unlessEmpty p.monitoring)]

def PowerState.ofJson? (j : Json) : Option PowerState := do
  let field ← j.record? ["ratio", "monitoring"]
  some {
    ratio := ← orElse (field "ratio") text? ""
    monitoring := ← orElse (field "monitoring") text? "" }

/-- The power state is the one plug-in there is. -/
def PowerState.toPlugins (p : PowerState) : Json := .object [("pstate", p.toJson)]

def PowerState.ofPlugins? (j : Json) : Option PowerState := do
  let field ← j.record? ["pstate"]
  orElse (field "pstate") PowerState.ofJson? {}

def WorkloadSpec.fieldNames : List String :=
  ["nodes", "cores", "allCores", "reservedCpus", "rdt", "policy", "plugins"]

def WorkloadSpec.toJson (s : WorkloadSpec) : Json :=
  .record [
    ("nodes", some (.ofTexts s.nodes)),
    ("cores", some (.ofTexts s.cores)),
    ("allCores", some (.bool s.allCores)),
    ("reservedCpus", some (.ofTexts s.reservedCpus)),
    ("rdt", some s.allocation.toJson),
    ("policy", unlessEmpty s.policy),
    ("plugins", some s.powerState.toPlugins)]

def WorkloadSpec.ofJson? (j : Json) : Option WorkloadSpec := do
  let field ← j.record? WorkloadSpec.fieldNames
  some {
    nodes := ← orElse (field "nodes") texts? []
    cores := ← orElse (field "cores") texts? []
    allCores := ← orElse (field "allCores") bool? false
    reservedCpus := ← orElse (field "reservedCpus") texts? []
    allocation := ← orElse (field "rdt") Allocation.ofJson? {}
    policy := ← orElse (field "policy") text? ""
    powerState := ← orElse (field "plugins") PowerState.ofPlugins? {} }

end CachePartition
