import CachePartition.Derivation.Overrides
import CachePartition.Derivation.Quantity
import CachePartition.Naming
import CachePartition.Pass

/-! Workloads derived from pods. A container yields one if it limits cache ways and its pod has whole
CPUs to itself; the CPUs pinned to it become the cores of the workload. -/
namespace CachePartition

open Pass

/-- The CPUs pinned to a container, in ascending order, from a fresh listing. -/
def containerCpus (space pod container : String) : Attempt IntrospectionError (List String) := do
  let pods ← orReport (perform .podCpus) fun e => ⟨e, []⟩
  match findContainer? pods space pod container with
  | none => fail ⟨.notFound (space ++ "/" ++ pod) container, []⟩
  | some c =>
    return (c.cpuIds.mergeSort fun a b => a ≤ b).map fun id => Text.signedDecimal id.toInt

namespace Container

def limit? (c : Container) (resource : String) : Option String :=
  c.resources.bind fun r => r.limits.bind fun l => l.get? resource

def request? (c : Container) (resource : String) : Option String :=
  c.resources.bind fun r => r.requests.bind fun l => l.get? resource

/-- The limit of a container on cache ways, if a workload can be named after the container. -/
def candidate? (c : Container) : Option String :=
  (c.limit? cacheWaysResource).filter fun _ =>
    !Text.occursIn workloadSeparator.toList c.name.toList

/-- Whether the container asks for whole CPUs. -/
def wantsWholeCpus (c : Container) : Except DeriveError Bool :=
  match c.request? "cpu" with
  | none => .ok false
  | some quantity =>
    match Quantity.millis? quantity with
    | some millis => .ok (Quantity.isPositiveWhole millis)
    | none => .error (.quantity c.name "cpu" quantity)

end Container

namespace Pod

/-- The namespace, or the default one. -/
def spaceOrDefault (p : Pod) : String :=
  (p.metadata.space.filter fun s => !s.isEmpty).getD defaultSpace

def hasUid (p : Pod) : Bool := p.metadata.uid.any fun uid => !uid.isEmpty

/-- The containers of a running pod on a host, the initial ones last; none if the pod is not there. -/
def containersOn? (p : Pod) (hostIp : String) : Option (List Container) := do
  let status ← p.status
  let spec ← p.spec
  if status.phase = some "Running" ∧ status.hostIp = some hostIp then
    some (spec.containers ++ spec.initContainers.getD [])
  else none

def isGuaranteed (p : Pod) : Bool :=
  p.status.any fun s => s.qosClass = some "Guaranteed"

def annotations (p : Pod) : TextMap String := p.metadata.annotations.getD SortedMap.empty

end Pod

/-- The workload of a container with its cores and cache ways. -/
def derivedWorkload (pod : Pod) (c : Container) (cores : List String) (ways : UInt32) : Workload :=
  let overrides := Overrides.ofAnnotations pod.annotations c.name
  { metadata := {
      name := some (workloadName pod.name c.name)
      space := some pod.spaceOrDefault
      ownerReferences := (pod.metadata.asController? "v1" "Pod").map fun owner => [owner] }
    spec := {
      nodes := ((pod.spec.bind (·.nodeName)).map fun node => [node]).getD []
      cores
      allocation := {
        cache := ⟨ways, ways⟩
        bandwidth := ⟨overrides.mbaPercentage, overrides.mbaMbps⟩ }
      policy := overrides.policy
      powerState := ⟨overrides.powerRatio, overrides.powerMonitoring⟩ } }

/-- Derives the workload of a container that qualifies. -/
def deriveContainer (pod : Pod) (c : Container) (limit : String) :
    Attempt DeriveError Workload := do
  if !pod.hasUid then fail ⟨.noUid pod.name, []⟩ else
  let noCpus : DeriveError := .noCpus pod.name c.name
  let cores ← ExceptT.mk do
    let cores ← (containerCpus pod.spaceOrDefault pod.name c.name).run
    return cores.mapError fun r => r.under .introspection noCpus
  if cores.isEmpty then fail ⟨noCpus, []⟩ else
  match Quantity.whole? limit with
  | none => fail ⟨.quantity c.name cacheWaysResource limit, []⟩
  | some ways => return derivedWorkload pod c cores ways

/-- Derives the workload of a container if it qualifies. -/
def deriveIfQualified (pod : Pod) (c : Container) : Attempt DeriveError (Option Workload) := do
  match c.candidate? with
  | none => return none
  | some limit =>
    if !pod.isGuaranteed then return none else
    match c.wantsWholeCpus with
    | .error e => fail ⟨e, []⟩
    | .ok false => return none
    | .ok true => some <$> deriveContainer pod c limit

/-- The workloads of a pod, one for each container that qualifies, if the pod runs on the host. -/
def derive (pod : Pod) (hostIp : String) : Attempt DeriveError (List Workload) := do
  match pod.containersOn? hostIp with
  | none => return []
  | some containers =>
    let derived ← containers.mapM (deriveIfQualified pod)
    return derived.filterMap id

end CachePartition
