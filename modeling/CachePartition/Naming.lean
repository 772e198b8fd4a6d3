import CachePartition.Text.Search

/-! The names by which pods, node states, workloads and entries find each other. -/
namespace CachePartition

/-- The extended resource that stands for cache ways. -/
def cacheWaysResource : String := "intel.com/l3_cache_ways"

/-- What stands between pod and container in the name of a derived workload. -/
def workloadSeparator : String := "-rmd-workload-"

/-- The namespace of what names none. -/
def defaultSpace : String := "default"

/-- The port on which daemons speak TLS. -/
def daemonTlsPort : Int := 8443

/-- The name that the certificates of daemons are for, wherever they run. -/
def daemonServerName : String := "rmd"

/-- Namespaces in which no agent runs. -/
def systemSpaces : List String := ["kube-system", "kube-public", "kube-node-lease"]

/-- The finalizer that keeps a deleted workload until its entries are gone. -/
def workloadFinalizer : String := "intel.com/rmd-workload-cleanup"

/-- The finalizer that keeps a deleted node state until its node is forgotten. -/
def nodeStateFinalizer : String := "intel.com/rmd-node-registry"

/-- The name under which this program writes to the cluster. -/
def fieldManager : String := "rmd-operator"

/-- The name of the daemon's pod on a node. -/
def daemonPodName (node : String) : String := "rmd-" ++ node

def nodeStateName (node : String) : String := "rmd-node-state-" ++ node

/-- The name of the workload derived from a container. -/
def workloadName (pod container : String) : String := pod ++ workloadSeparator ++ container

/-- The pod that a workload of this name is derived from: what stands before the first separator,
unless nothing does. -/
def podOfWorkload? (name : String) : Option String :=
  match Text.splitOnce? workloadSeparator.toList name.toList with
  | some (pod, _) => if pod.isEmpty then none else some (String.ofList pod)
  | none => none

/-- The id that the entries of a workload carry. -/
def externalId (name space : String) : String := name ++ "." ++ space

end CachePartition
