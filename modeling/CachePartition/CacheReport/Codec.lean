import CachePartition.CacheReport.Basic
import CachePartition.Json.Codec

/-! Cache reports as JSON. Every field is written and none is needed. -/
namespace CachePartition

open Json

def CacheDetails.fieldNames : List String :=
  ["num_ways", "num_sets", "num_partitions", "line_size", "total_size", "way_size", "num_closs",
    "available_ways", "available_cpu"]

def CacheDetails.toJson (c : CacheDetails) : Json :=
  .object [
    ("num_ways", .ofNat c.numWays.toNat),
    ("num_sets", .ofNat c.numSets.toNat),
    ("num_partitions", .ofNat c.numPartitions.toNat),
    ("line_size", .ofNat c.lineSize.toNat),
    ("total_size", .ofNat c.totalSize.toNat),
    ("way_size", .ofNat c.waySize.toNat),
    ("num_closs", .ofNat c.numClasses.toNat),
    ("available_ways", .string c.availableWays),
    ("available_cpu", .string c.availableCpu)]

def CacheDetails.ofJson? (j : Json) : Option CacheDetails := do
  let field ← j.record? CacheDetails.fieldNames
  some {
    numWays := ← orElse (field "num_ways") uint32? 0
    numSets := ← orElse (field "num_sets") uint32? 0
    numPartitions := ← orElse (field "num_partitions") uint32? 0
    lineSize := ← orElse (field "line_size") uint32? 0
    totalSize := ← orElse (field "total_size") uint64? 0
    waySize := ← orElse (field "way_size") uint64? 0
    numClasses := ← orElse (field "num_closs") uint32? 0
    availableWays := ← orElse (field "available_ways") text? ""
    availableCpu := ← orElse (field "available_cpu") text? "" }

def CacheReport.fieldNames : List String :=
  ["rdt", "cqm", "cdp", "cdp_enable", "cat", "cat_enable", "caches"]

def CacheReport.toJson (r : CacheReport) : Json :=
  .object [
    ("rdt", .bool r.allocation),
    ("cqm", .bool r.monitoring),
    ("cdp", .bool r.codeData),
    ("cdp_enable", .bool r.codeDataEnabled),
    ("cat", .bool r.cacheAllocation),
    ("cat_enable", .bool r.cacheAllocationEnabled),
    ("caches", ofTextMap CacheDetails.toJson r.caches)]

def CacheReport.ofJson? (j : Json) : Option CacheReport := do
  let field ← j.record? CacheReport.fieldNames
  some {
    allocation := ← orElse (field "rdt") bool? false
    monitoring := ← orElse (field "cqm") bool? false
    codeData := ← orElse (field "cdp") bool? false
    codeDataEnabled := ← orElse (field "cdp_enable") bool? false
    cacheAllocation := ← orElse (field "cat") bool? false
    cacheAllocationEnabled := ← orElse (field "cat_enable") bool? false
    caches := ← orElse (field "caches") (textMap? CacheDetails.ofJson?) SortedMap.empty }

end CachePartition
