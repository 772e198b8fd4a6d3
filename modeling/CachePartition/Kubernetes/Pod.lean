import CachePartition.Kubernetes.Field

/-! Pods, as far as this program looks into them. Fields it has no use for are kept as they are. -/
namespace CachePartition

open Json

structure ContainerPort where
  containerPort : Int32 := 0
  others : OtherFields := []
  deriving Repr

/-- What a container may use and what it is granted, by resource. -/
structure ContainerResources where
  limits : Option (TextMap String) := none
  requests : Option (TextMap String) := none
  others : OtherFields := []
  deriving Repr

structure Container where
  name : String := ""
  ports : Option (List ContainerPort) := none
  resources : Option ContainerResources := none
  others : OtherFields := []
  deriving Repr

structure PodSpec where
  containers : List Container := []
  initContainers : Option (List Container) := none
  nodeName : Option String := none
  others : OtherFields := []
  deriving Repr

structure PodStatus where
  phase : Option String := none
  hostIp : Option String := none
  podIp : Option String := none
  qosClass : Option String := none
  others : OtherFields := []
  deriving Repr

structure Pod where
  metadata : Metadata := {}
  spec : Option PodSpec := none
  status : Option PodStatus := none
  deriving Repr

namespace ContainerPort

def otherFields : List (String × FieldShape) :=
  FieldShape.text.each ["hostIP", "name", "protocol"] ++ [("hostPort", .int32)]

def ofJson? (j : Json) : Option ContainerPort := do
  let values ← j.members?
  some {
    containerPort := ((← lastOf (values "containerPort") (intWithin? 31)).map .ofInt).getD 0
    others := ← otherFields? otherFields values }

def toJson (p : ContainerPort) : Json :=
  withOthers [("containerPort", some (.ofInt p.containerPort.toInt))] p.others

end ContainerPort

namespace ContainerResources

def ofJson? (j : Json) : Option ContainerResources := do
  let values ← j.members?
  some {
    limits := ← lastOf (values "limits") (textMap? text?)
    requests := ← lastOf (values "requests") (textMap? text?)
    others := ← otherFields? [("claims", .objects)] values }

def toJson (r : ContainerResources) : Json :=
  withOthers [("limits", r.limits.map (ofTextMap .string)),
    ("requests", r.requests.map (ofTextMap .string))] r.others

end ContainerResources

namespace Container

def otherFields : List (String × FieldShape) :=
  FieldShape.texts.each ["args", "command"] ++
  FieldShape.text.each ["image", "imagePullPolicy", "restartPolicy", "terminationMessagePath",
    "terminationMessagePolicy", "workingDir"] ++
  FieldShape.flag.each ["stdin", "stdinOnce", "tty"] ++
  FieldShape.object.each ["lifecycle", "livenessProbe", "readinessProbe", "securityContext",
    "startupProbe"] ++
  FieldShape.objects.each ["env", "envFrom", "resizePolicy", "volumeDevices", "volumeMounts"]

def ofJson? (j : Json) : Option Container := do
  let values ← j.members?
  some {
    name := (← lastOf (values "name") text?).getD ""
    ports := ← lastOf (values "ports") (list? ContainerPort.ofJson?)
    resources := ← lastOf (values "resources") ContainerResources.ofJson?
    others := ← otherFields? otherFields values }

def toJson (c : Container) : Json :=
  withOthers [
    ("name", some (.string c.name)),
    ("ports", c.ports.map fun l => .array (l.map ContainerPort.toJson)),
    ("resources", c.resources.map ContainerResources.toJson)] c.others

end Container

namespace PodSpec

def otherFields : List (String × FieldShape) :=
  FieldShape.int64.each ["activeDeadlineSeconds", "terminationGracePeriodSeconds"] ++
  FieldShape.int32.each ["priority"] ++
  FieldShape.flag.each ["automountServiceAccountToken", "enableServiceLinks", "hostIPC",
    "hostNetwork", "hostPID", "hostUsers", "setHostnameAsFQDN", "shareProcessNamespace"] ++
  FieldShape.text.each ["dnsPolicy", "hostname", "preemptionPolicy", "priorityClassName",
    "restartPolicy", "runtimeClassName", "schedulerName", "serviceAccount", "serviceAccountName",
    "subdomain"] ++
  FieldShape.textMap.each ["nodeSelector", "overhead"] ++
  FieldShape.object.each ["affinity", "dnsConfig", "os", "securityContext"] ++
  FieldShape.objects.each ["ephemeralContainers", "hostAliases", "imagePullSecrets",
    "readinessGates", "resourceClaims", "schedulingGates", "tolerations",
    "topologySpreadConstraints", "volumes"]

def ofJson? (j : Json) : Option PodSpec := do
  let values ← j.members?
  some {
    containers := (← lastOf (values "containers") (list? Container.ofJson?)).getD []
    initContainers := ← lastOf (values "initContainers") (list? Container.ofJson?)
    nodeName := ← lastOf (values "nodeName") text?
    others := ← otherFields? otherFields values }

def toJson (s : PodSpec) : Json :=
  withOthers [
    ("containers", some (.array (s.containers.map Container.toJson))),
    ("initContainers", s.initContainers.map fun l => .array (l.map Container.toJson)),
    ("nodeName", s.nodeName.map .string)] s.others

end PodSpec

namespace PodStatus

def otherFields : List (String × FieldShape) :=
  FieldShape.objects.each ["conditions", "containerStatuses", "ephemeralContainerStatuses",
    "hostIPs", "initContainerStatuses", "podIPs", "resourceClaimStatuses"] ++
  FieldShape.text.each ["message", "nominatedNodeName", "reason", "resize"] ++
  FieldShape.instant.each ["startTime"]

def ofJson? (j : Json) : Option PodStatus := do
  let values ← j.members?
  some {
    phase := ← lastOf (values "phase") text?
    hostIp := ← lastOf (values "hostIP") text?
    podIp := ← lastOf (values "podIP") text?
    qosClass := ← lastOf (values "qosClass") text?
    others := ← otherFields? otherFields values }

def toJson (s : PodStatus) : Json :=
  withOthers [
    ("phase", s.phase.map .string),
    ("hostIP", s.hostIp.map .string),
    ("podIP", s.podIp.map .string),
    ("qosClass", s.qosClass.map .string)] s.others

end PodStatus

namespace Pod

def name (p : Pod) : String := p.metadata.anyName

def key (p : Pod) : ObjectKey := p.metadata.key

def ofJson? (j : Json) : Option Pod := do
  let values ← j.members?
  if isKind "v1" "Pod" values then
    some {
      metadata := (← lastOf (values "metadata") Metadata.ofJson?).getD {}
      spec := ← lastOf (values "spec") PodSpec.ofJson?
      status := ← lastOf (values "status") PodStatus.ofJson? }
  else none

def toJson (p : Pod) : Json :=
  .record [
    ("apiVersion", some (.string "v1")),
    ("kind", some (.string "Pod")),
    ("metadata", some p.metadata.toJson),
    ("spec", p.spec.map PodSpec.toJson),
    ("status", p.status.map PodStatus.toJson)]

end Pod

end CachePartition
