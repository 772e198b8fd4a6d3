import CachePartition.Entry.Basic

/-! An entry as a flat map of texts. A setting that is empty or zero is left out. -/
namespace CachePartition

/-- What a node state shows of an entry. -/
abbrev Snapshot := TextMap String

namespace Entry

/-- The decimal of a number, empty for zero. -/
def nonZero (n : UInt32) : String := if n = 0 then "" else Text.decimal n.toNat

/-- The texts of all settings; the empty text stands for none. -/
def settings (e : Entry) : List (String × String) :=
  let cache := e.allocation.bind (·.cache)
  let bandwidth := e.allocation.bind (·.bandwidth)
  let powerState := e.plugins.bind (·.powerState)
  [("id", e.id),
    ("uuid", e.uuid),
    ("core_ids", Text.join "," e.coreIds),
    ("task_ids", Text.join "," e.taskIds),
    ("policy", e.policy),
    ("status", e.status),
    ("cos_name", e.className),
    ("cache_max", cache.elim "" fun c => nonZero c.max),
    ("cache_min", cache.elim "" fun c => nonZero c.min),
    ("mba_percentage", (bandwidth.bind (·.percentage)).elim "" nonZero),
    ("mba_mbps", (bandwidth.bind (·.mbps)).elim "" nonZero),
    ("pstate_ratio", (powerState.bind (·.ratio)).elim "" Decimal.display),
    ("pstate_monitoring", (powerState.bind (·.monitoring)).getD "")]

def snapshot (e : Entry) : Snapshot :=
  .ofList (e.settings.filter fun s => !s.2.isEmpty)

end Entry

end CachePartition
