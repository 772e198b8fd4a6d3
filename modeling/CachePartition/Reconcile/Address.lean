import CachePartition.Naming
import CachePartition.Pass

/-! Where the daemon of a node is reached. -/
namespace CachePartition

open Pass

/-- How daemons are spoken to. -/
inductive Scheme where
  | http
  | https
  deriving DecidableEq, Repr

def Scheme.text : Scheme → String
  | .http => "http://"
  | .https => "https://"

/-- The address and first port of a daemon pod. -/
def Pod.hostPort (p : Pod) : Except ClusterError String :=
  let name := p.metadata.name.getD ""
  match (p.status.bind (·.podIp)).filter fun ip => !ip.isEmpty with
  | none => .error (.noAddress name)
  | some ip =>
    match p.spec.bind (·.containers.head?) with
    | none => .error (.noContainer name)
    | some c =>
      match c.ports.bind (·.head?) with
      | none => .error (.noPort name)
      | some port => .ok (ip ++ ":" ++ Text.signedDecimal port.containerPort.toInt)

/-- The base address of a daemon. -/
def daemonBase (scheme : Scheme) (hostPort : String) : String := scheme.text ++ hostPort

/-- Looks up the daemon pod of a node and the address in it. -/
def daemonHostPort (node space : String) : Attempt ClusterError String := do
  let name := daemonPodName node
  let pod? ← orReport (perform (.cluster (.pod space name))) fun e => ⟨e, []⟩
  match pod? with
  | none => fail ⟨.noDaemonPod name space, []⟩
  | some pod =>
    match pod.hostPort with
    | .ok address => return address
    | .error e => fail ⟨e, []⟩

/-- The base address of the daemon of a node. -/
def daemonAddress (scheme : Scheme) (node space : String) : Attempt SyncError String :=
  ExceptT.mk do
    let hostPort ← (daemonHostPort node space).run
    return (hostPort.map (daemonBase scheme)).mapError fun r =>
      r.underCluster (.daemonAddress node)

end CachePartition
