import CachePartition.Call
import CachePartition.Cluster.Path
import CachePartition.Cluster.Reply
import CachePartition.Naming

/-! Cluster calls as dialogues with the cluster's server. -/
namespace CachePartition

open Json

abbrev ApiAttempt (α : Type) := ExceptT ReplyError Dialogue α

namespace Api

/-- Sends a request and decodes the reply. One whose path cannot be written is not sent. -/
def call {α : Type} (ofJson? : Json → Option α) (r : ApiRequest) : ApiAttempt α :=
  match target? r.path r.query with
  | some (path, query) =>
    ExceptT.mk do
      let reply ← Dialogue.send { r with path, query }
      return reply.decode ofJson?
  | none => throw .undecodable

def get {α : Type} (ofJson? : Json → Option α) (path : String) : ApiAttempt α :=
  call ofJson? { method := "GET", path }

/-- An object, or none if there is none. -/
def getOpt {α : Type} (ofJson? : Json → Option α) (path : String) : ApiAttempt (Option α) :=
  ExceptT.mk do
    let object ← (get ofJson? path).run
    match object with
    | .ok a => return .ok (some a)
    | .error (.failed f) => return if f.isNotFound then .ok none else .error (.failed f)
    | .error e => return .error e

/-- A request with a JSON body. -/
def send {α : Type} (ofJson? : Json → Option α) (method path : String) (body : Json) :
    ApiAttempt α :=
  call ofJson? { method, path, contentType := some "application/json", body := some body }

/-- A step of a call; its failure is told in these words. -/
def during {α : Type} (action : String) (p : ApiAttempt α) : ExceptT ClusterError Dialogue α :=
  ExceptT.mk do
    let r ← p.run
    return r.mapError fun _ => .api action

/-- Deletes a pod; one that is gone already will do. -/
def deletePod (space name : String) : ApiAttempt Unit :=
  ExceptT.mk do
    let r ← (send deleted? "DELETE" (podPath space name) (.object [])).run
    match r with
    | .error (.failed f) => return if f.code = 404 then .ok () else .error (.failed f)
    | r => return r

/-- Replaces the status of an object by reading it, changing it and writing it back. -/
def replaceStatus {α : Type} (ofJson? : Json → Option α) (path what : String)
    (update : α → Json) : ExceptT ClusterError Dialogue Unit := do
  let latest ← during ("getting " ++ what) (get ofJson? (path ++ "/status"))
  let _ ← during ("replacing status of " ++ what)
    (send ofJson? "PUT" (path ++ "/status") (update latest))
  return ()

def applyWorkload (w : Workload) : ApiAttempt Workload :=
  call Workload.ofJson? {
    method := "PATCH"
    path := workloadPath w.space w.name
    query := "&force=true&fieldManager=" ++ fieldManager
    contentType := some "application/apply-patch+yaml"
    body := some w.toJson }

def getPod (space name : String) : ExceptT ClusterError Dialogue (Option Pod) :=
  during ("getting pod " ++ space ++ "/" ++ name) (getOpt Pod.ofJson? (podPath space name))

/-- The metadata of a namespace. -/
def spaceOfJson? (j : Json) : Option Metadata := do
  let values ← j.members?
  if isKind "v1" "Namespace" values then
    some ((← lastOf (values "metadata") Metadata.ofJson?).getD {})
  else none

/-- Looks for a pod in one namespace after the other. -/
def findPodIn (name : String) : List String → ExceptT ClusterError Dialogue (Option Pod)
  | [] => return none
  | space :: rest => do
    match ← getPod space name with
    | some pod => return some pod
    | none => findPodIn name rest

def findPod (name : String) : ExceptT ClusterError Dialogue (Option Pod) := do
  let spaces ← during "listing namespaces" (get (listItems? spaceOfJson?) (corePath "namespaces"))
  findPodIn name ((spaces.map Metadata.anyName).filter fun s => s ∉ systemSpaces)

/-- The node state that is made for a node. It goes away with the node. -/
def newNodeState (space : String) (node : Node) : NodeState :=
  { metadata := {
      name := some (nodeStateName node.name)
      space := some space
      ownerReferences := (node.metadata.asController? "v1" "Node").map fun owner => [owner] }
    spec := { node := node.name, nodeUid := node.metadata.uid.getD "" } }

def ensureNodeState (space : String) (node : Node) : ExceptT ClusterError Dialogue Unit := do
  let name := nodeStateName node.name
  let what := "node state " ++ space ++ "/" ++ name
  let existing ← during ("getting " ++ what) (getOpt NodeState.ofJson? (nodeStatePath space name))
  match existing with
  | some _ => return ()
  | none =>
    let _ ← during ("creating " ++ what)
      (send NodeState.ofJson? "POST" (nodeStatesPath space) (newNodeState space node).toJson)
    return ()

end Api

/-- The dialogue that makes a call. -/
def ClusterCall.dialogue : (c : ClusterCall) → Dialogue c.Answer
  | .nodeStates =>
    (Api.during "listing node states"
      (Api.get (listItems? NodeState.ofJson?) Api.allNodeStatesPath)).run
  | .pod space name => (Api.getPod space name).run
  | .node name =>
    (Api.during ("getting node " ++ name) (Api.getOpt Node.ofJson? (Api.nodePath name))).run
  | .deletePod space name =>
    (Api.during ("deleting pod " ++ space ++ "/" ++ name) (Api.deletePod space name)).run
  | .replaceWorkloadStatus w status =>
    (Api.replaceStatus Workload.ofJson? (Api.workloadPath w.space w.name)
      ("workload " ++ w.space ++ "/" ++ w.name)
      fun latest => Workload.toJson { latest with status := some status }).run
  | .replaceNodeStateStatus n status =>
    (Api.replaceStatus NodeState.ofJson? (Api.nodeStatePath n.space n.name)
      ("node state " ++ n.space ++ "/" ++ n.name)
      fun latest => NodeState.toJson { latest with status := some status }).run
  | .applyWorkload w =>
    (do
      let _ ← Api.during ("applying workload " ++ w.space ++ "/" ++ w.name) (Api.applyWorkload w)
      return () : ExceptT ClusterError Dialogue Unit).run
  | .findPod name => (Api.findPod name).run
  | .ensureNodeState space n => (Api.ensureNodeState space n).run

end CachePartition
