import CachePartition.Entry.Basic
import CachePartition.Json.Codec
import CachePartition.Workload.SpecCodec

/-! Entries as JSON. What is empty or absent is not written. -/
namespace CachePartition.Entry

open Json

def Bandwidth.toJson (b : Bandwidth) : Json :=
  .record [("percentage", b.percentage.map fun n => .ofNat n.toNat),
    ("mbps", b.mbps.map fun n => .ofNat n.toNat)]

def Bandwidth.ofJson? (j : Json) : Option Bandwidth := do
  let field ← j.record? ["percentage", "mbps"]
  some {
    percentage := ← maybe (field "percentage") uint32?
    mbps := ← maybe (field "mbps") uint32? }

def Allocation.toJson (a : Allocation) : Json :=
  .record [("cache", a.cache.map CacheBounds.toJson), ("mba", a.bandwidth.map Bandwidth.toJson)]

def Allocation.ofJson? (j : Json) : Option Allocation := do
  let field ← j.record? ["cache", "mba"]
  some {
    cache := ← maybe (field "cache") CacheBounds.ofJson?
    bandwidth := ← maybe (field "mba") Bandwidth.ofJson? }

def PowerState.toJson (p : PowerState) : Json :=
  .record [("ratio", p.ratio.map Json.ofBinary64), ("monitoring", p.monitoring.map .string)]

def PowerState.ofJson? (j : Json) : Option PowerState := do
  let field ← j.record? ["ratio", "monitoring"]
  some {
    ratio := ← maybe (field "ratio") binary64?
    monitoring := ← maybe (field "monitoring") text? }

def Plugins.toJson (p : Plugins) : Json :=
  .record [("pstate", p.powerState.map PowerState.toJson)]

def Plugins.ofJson? (j : Json) : Option Plugins := do
  let field ← j.record? ["pstate"]
  some { powerState := ← maybe (field "pstate") PowerState.ofJson? }

def fieldNames : List String :=
  ["id", "uuid", "core_ids", "task_ids", "policy", "status", "cos_name", "rdt", "plugins"]

def toJson (e : Entry) : Json :=
  .record [
    ("id", unlessEmpty e.id),
    ("uuid", unlessEmpty e.uuid),
    ("core_ids", unlessNone e.coreIds),
    ("task_ids", unlessNone e.taskIds),
    ("policy", unlessEmpty e.policy),
    ("status", unlessEmpty e.status),
    ("cos_name", unlessEmpty e.className),
    ("rdt", e.allocation.map Allocation.toJson),
    ("plugins", e.plugins.map Plugins.toJson)]

def ofJson? (j : Json) : Option Entry := do
  let field ← j.record? fieldNames
  some {
    id := ← orElse (field "id") text? ""
    uuid := ← orElse (field "uuid") text? ""
    coreIds := ← orElse (field "core_ids") texts? []
    taskIds := ← orElse (field "task_ids") texts? []
    policy := ← orElse (field "policy") text? ""
    status := ← orElse (field "status") text? ""
    className := ← orElse (field "cos_name") text? ""
    allocation := ← maybe (field "rdt") Allocation.ofJson?
    plugins := ← maybe (field "plugins") Plugins.ofJson? }

end CachePartition.Entry
