/-! The CPUs that a node has pinned to containers. -/
namespace CachePartition

structure ContainerCpus where
  name : String := ""
  cpuIds : List Int64 := []
  deriving DecidableEq, Repr

structure PodCpus where
  name : String := ""
  /-- The namespace. -/
  space : String := ""
  containers : List ContainerCpus := []
  deriving DecidableEq, Repr

/-- The first container of a name in the pods of a name. -/
def findContainer? (pods : List PodCpus) (space pod container : String) : Option ContainerCpus :=
  ((pods.filter fun p => p.space = space ∧ p.name = pod).flatMap (·.containers)).find?
    fun c => c.name = container

end CachePartition
