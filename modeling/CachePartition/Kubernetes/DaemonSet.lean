import CachePartition.Kubernetes.Pod

/-! Daemon sets, as far as this program looks into them: the pods they run. -/
namespace CachePartition

open Json

structure PodTemplate where
  metadata : Option Metadata := none
  spec : Option PodSpec := none
  deriving Repr

structure DaemonSet where
  metadata : Metadata := {}
  template : Option PodTemplate := none
  deriving Repr

def PodTemplate.ofJson? (j : Json) : Option PodTemplate := do
  let values ← j.members?
  some {
    metadata := ← lastOf (values "metadata") Metadata.ofJson?
    spec := ← lastOf (values "spec") PodSpec.ofJson? }

namespace DaemonSet

/-- The template within a specification. -/
def templateOfJson? (j : Json) : Option PodTemplate := do
  let values ← j.members?
  let _ ← lastOf (values "minReadySeconds") (intWithin? 31)
  let _ ← lastOf (values "revisionHistoryLimit") (intWithin? 31)
  let _ ← lastOf (values "selector") members?
  let _ ← lastOf (values "updateStrategy") members?
  some ((← lastOf (values "template") PodTemplate.ofJson?).getD {})

def ofJson? (j : Json) : Option DaemonSet := do
  let values ← j.members?
  if isKind "apps/v1" "DaemonSet" values then
    let _ ← lastOf (values "status") members?
    some {
      metadata := (← lastOf (values "metadata") Metadata.ofJson?).getD {}
      template := ← lastOf (values "spec") templateOfJson? }
  else none

/-- The first port of the first container. -/
def port? (d : DaemonSet) : Option Int32 := do
  let container ← (← (← d.template).spec).containers.head?
  return (← (← container.ports).head?).containerPort

end DaemonSet

end CachePartition
