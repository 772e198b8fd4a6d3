import CachePartition.TextSet
import CachePartition.Text.Numeral

/-! What a workload asks for: a share of cache ways and memory bandwidth for some cores of some
nodes. -/
namespace CachePartition

/-- Bounds on the number of cache ways; nothing is asked for if both are zero. -/
structure CacheBounds where
  max : UInt32 := 0
  min : UInt32 := 0
  deriving DecidableEq, Repr

/-- Memory bandwidth; zero asks for nothing. -/
structure Bandwidth where
  percentage : UInt32 := 0
  mbps : UInt32 := 0
  deriving DecidableEq, Repr

structure Allocation where
  cache : CacheBounds := {}
  bandwidth : Bandwidth := {}
  deriving DecidableEq, Repr

/-- Frequency settings, as texts; the empty text asks for nothing. -/
structure PowerState where
  ratio : String := ""
  monitoring : String := ""
  deriving DecidableEq, Repr

structure WorkloadSpec where
  /-- The nodes that are to hold the entry. -/
  nodes : List String := []
  /-- The cores, unless all are asked for. -/
  cores : List String := []
  allCores : Bool := false
  /-- The cores left out when all are asked for. -/
  reservedCpus : List String := []
  allocation : Allocation := {}
  /-- The name of a preset of the daemon. -/
  policy : String := ""
  powerState : PowerState := {}
  deriving DecidableEq, Repr

/-- How the cores of a node are chosen. -/
inductive CoreSelection where
  | explicit (cores : List String)
  | allExcept (reserved : TextSet)
  deriving DecidableEq, Repr

/-- The cores on a node with `cpuCount` of them. -/
def CoreSelection.resolve (cpuCount : Nat) : CoreSelection → List String
  | .explicit cores => cores
  | .allExcept reserved =>
    ((List.range cpuCount).map Text.decimal).filter fun core => !reserved.contains core

namespace WorkloadSpec

def coreSelection (s : WorkloadSpec) : CoreSelection :=
  if s.allCores then .allExcept (.ofList s.reservedCpus) else .explicit s.cores

/-- The nodes, each once, in ascending order. -/
def targets (s : WorkloadSpec) : TextSet := .ofList s.nodes

end WorkloadSpec

end CachePartition
