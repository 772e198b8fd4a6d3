import CachePartition.Json.Codec

/-! What became of a workload, node by node. -/
namespace CachePartition

open Json

/-- The outcome of the last pass on one node. -/
structure NodeOutcome where
  /-- The daemon's answer or the failure, for people to read. -/
  response : String := ""
  /-- The id the daemon gave the entry. -/
  id : String := ""
  /-- The class of service the daemon chose. -/
  className : String := ""
  status : String := ""
  deriving DecidableEq, Repr

/-- Outcomes by node name. -/
structure WorkloadStatus where
  nodes : TextMap NodeOutcome := SortedMap.empty
  deriving DecidableEq, Repr

def NodeOutcome.toJson (o : NodeOutcome) : Json :=
  .object [("response", .string o.response), ("id", .string o.id),
    ("cosName", .string o.className), ("status", .string o.status)]

def NodeOutcome.ofJson? (j : Json) : Option NodeOutcome := do
  let field ← j.record? ["response", "id", "cosName", "status"]
  some {
    response := ← orElse (field "response") text? ""
    id := ← orElse (field "id") text? ""
    className := ← orElse (field "cosName") text? ""
    status := ← orElse (field "status") text? "" }

def WorkloadStatus.toJson (s : WorkloadStatus) : Json :=
  .object [("workloadStates", ofTextMap NodeOutcome.toJson s.nodes)]

def WorkloadStatus.ofJson? (j : Json) : Option WorkloadStatus := do
  let field ← j.record? ["workloadStates"]
  some { nodes := ← orElse (field "workloadStates") (textMap? NodeOutcome.ofJson?) SortedMap.empty }

end CachePartition
