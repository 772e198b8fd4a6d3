import CachePartition.TextSet

/-! The nodes known to run a daemon. -/
namespace CachePartition

structure Registry where
  nodes : TextSet := TextSet.empty
  deriving DecidableEq, Repr

namespace Registry

def contains (r : Registry) (node : String) : Bool := r.nodes.contains node

def add (r : Registry) (node : String) : Registry := ⟨r.nodes.insert node⟩

def remove (r : Registry) (node : String) : Registry := ⟨r.nodes.erase node⟩

end Registry

end CachePartition
