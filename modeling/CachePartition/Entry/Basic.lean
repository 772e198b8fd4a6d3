import CachePartition.Decimal.Layout
import CachePartition.Decimal.Reader
import CachePartition.SortedMap
import CachePartition.Text.Search
import CachePartition.Workload.Spec

/-! Entries: the partitions a daemon holds on its node. What an entry leaves open is absent. -/
namespace CachePartition

namespace Entry

/-- Memory bandwidth as far as it is set. -/
structure Bandwidth where
  percentage : Option UInt32 := none
  mbps : Option UInt32 := none
  deriving DecidableEq, Repr

structure Allocation where
  cache : Option CacheBounds := none
  bandwidth : Option Bandwidth := none
  deriving DecidableEq, Repr

structure PowerState where
  ratio : Option Decimal.Binary64 := none
  monitoring : Option String := none
  deriving DecidableEq, Repr

structure Plugins where
  powerState : Option PowerState := none
  deriving DecidableEq, Repr

end Entry

/-- A partition of a node. -/
structure Entry where
  /-- The id the daemon issued. -/
  id : String := ""
  /-- The id of the workload it belongs to. -/
  uuid : String := ""
  coreIds : List String := []
  taskIds : List String := []
  policy : String := ""
  status : String := ""
  className : String := ""
  allocation : Option Entry.Allocation := none
  plugins : Option Entry.Plugins := none
  deriving DecidableEq, Repr, Inhabited

namespace Entry

/-- A setting that zero leaves open. -/
def unlessZero (n : UInt32) : Option UInt32 := if n = 0 then none else some n

def cacheOf (b : CacheBounds) : Option CacheBounds :=
  if b.max = 0 ∧ b.min = 0 then none else some b

def bandwidthOf (b : CachePartition.Bandwidth) : Option Bandwidth :=
  if b.percentage = 0 ∧ b.mbps = 0 then none
  else some ⟨unlessZero b.percentage, unlessZero b.mbps⟩

def allocationOf (a : CachePartition.Allocation) : Option Allocation :=
  let cache := cacheOf a.cache
  let bandwidth := bandwidthOf a.bandwidth
  if cache.isNone ∧ bandwidth.isNone then none else some ⟨cache, bandwidth⟩

/-- A ratio that is no number is left open. -/
def pluginsOf (p : CachePartition.PowerState) : Option Plugins :=
  let ratio := Decimal.read? (Text.trimBlanks p.ratio.toList)
  let monitoring := if p.monitoring.isEmpty then none else some p.monitoring
  if ratio.isNone ∧ monitoring.isNone then none else some ⟨some ⟨ratio, monitoring⟩⟩

/-- The entry that a specification asks for on a node where its cores are `coreIds`. -/
def ofSpec (uuid : String) (coreIds : List String) (spec : WorkloadSpec) : Entry :=
  { uuid, coreIds
    policy := spec.policy
    allocation := allocationOf spec.allocation
    plugins := pluginsOf spec.powerState }

/-- The first entry that belongs to a workload. -/
def findByUuid (entries : List Entry) (uuid : String) : Option Entry :=
  entries.find? fun e => e.uuid = uuid

end Entry

end CachePartition
