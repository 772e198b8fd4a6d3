import CachePartition.Text.Numeral
import CachePartition.Text.Quoted
import CachePartition.Text.Search

/-! What can go wrong, by the part of the program where it does, and reports that tell what led to
what. -/
namespace CachePartition

/-- A call on a daemon that failed. -/
inductive DaemonError where
  /-- The address is no URL. -/
  | request
  /-- The URL has no host. -/
  | header
  | transport (address : String)
  | rejected (status : Nat) (body : String)
  | decode
  | tls (message : String)
  | client
  deriving DecidableEq, Repr

def DaemonError.message : DaemonError → String
  | .request => "failed to create request"
  | .header => "failed to set header"
  | .transport address => "failed to reach daemon at " ++ address
  | .rejected status body => "Fail: " ++ Text.decimal status ++ " " ++ body
  | .decode => "failed to decode daemon response"
  | .tls message => "failed to set up TLS: " ++ message
  | .client => "failed to build HTTP client"

/-- A question to the cluster that failed, or an answer of no use. -/
inductive ClusterError where
  | connection (message : String)
  | api (message : String)
  | noDaemonPod (pod space : String)
  | noAddress (pod : String)
  | noContainer (pod : String)
  | noPort (pod : String)
  | noNode (node : String)
  | noCpuCapacity (node : String)
  deriving DecidableEq, Repr

def ClusterError.message : ClusterError → String
  | .connection message => "Failed to connect to Kubernetes API: " ++ message
  | .api message => "Kubernetes API call failed: " ++ message
  | .noDaemonPod pod space => "Daemon pod " ++ pod ++ " not found in namespace " ++ space
  | .noAddress pod => "Pod " ++ pod ++ " has no assigned address"
  | .noContainer pod => "Pod " ++ pod ++ " has no container"
  | .noPort pod => "Pod " ++ pod ++ " declares no container port"
  | .noNode node => "Node " ++ node ++ " not found"
  | .noCpuCapacity node => "Node " ++ node ++ " reports no usable CPU capacity"

/-- Why a pod yields no workloads. -/
inductive DeriveError where
  | noUid (pod : String)
  | noCpus (pod container : String)
  | quantity (container resource value : String)
  deriving DecidableEq, Repr

def DeriveError.message : DeriveError → String
  | .noUid pod => "pod " ++ pod ++ " has no UID"
  | .noCpus pod container => "no CPUs pinned to container " ++ container ++ " of pod " ++ pod
  | .quantity container resource value =>
    "invalid " ++ resource ++ " quantity " ++ Text.quoted value ++ " on container " ++ container

/-- Why the CPUs of a container are not known. -/
inductive IntrospectionError where
  | connect (path : String)
  | list
  | notFound (pod container : String)
  deriving DecidableEq, Repr

def IntrospectionError.message : IntrospectionError → String
  | .connect path => "failed to connect to pod resources socket " ++ path
  | .list => "pod resources list call failed"
  | .notFound pod container => "no CPUs found for container " ++ container ++ " of pod " ++ pod

/-- What a reconciliation failed to do. -/
inductive SyncError where
  | listNodeStates
  | noNodeState (node : String)
  | daemonAddress (node : String)
  | nodeCores (node : String)
  | daemon (node : String)
  | status (name : String)
  | nodesFailed (nodes : List String)
  | agentHost (pod : String)
  | derive (pod : String)
  | apply (name : String)
  | registerNode (node : String)
  deriving DecidableEq, Repr

def SyncError.message : SyncError → String
  | .listNodeStates => "failed to list node states"
  | .noNodeState node => "no node state found for node " ++ node
  | .daemonAddress node => "failed to resolve daemon address for node " ++ node
  | .nodeCores node => "failed to resolve cores for node " ++ node
  | .daemon node => "daemon call failed on node " ++ node
  | .status name => "failed to update status of " ++ name
  | .nodesFailed nodes => "reconciliation failed on nodes: " ++ Text.join ", " nodes
  | .agentHost pod => "failed to locate node agent pod " ++ pod
  | .derive pod => "failed to derive workloads from pod " ++ pod
  | .apply name => "failed to apply workload " ++ name
  | .registerNode node => "failed to register node " ++ node

/-- A failure of any part. -/
inductive Failure where
  | sync (e : SyncError)
  | daemon (e : DaemonError)
  | cluster (e : ClusterError)
  | derive (e : DeriveError)
  | introspection (e : IntrospectionError)
  deriving DecidableEq, Repr

def Failure.message : Failure → String
  | .sync e => e.message
  | .daemon e => e.message
  | .cluster e => e.message
  | .derive e => e.message
  | .introspection e => e.message

/-- An error with the failures that led to it, the last one first. -/
structure Report (ε : Type) where
  error : ε
  causes : List Failure := []
  deriving DecidableEq, Repr

namespace Report

variable {ε : Type}

/-- The error as the cause of another. -/
def under {ζ : Type} (r : Report ε) (embed : ε → Failure) (error : ζ) : Report ζ :=
  ⟨error, embed r.error :: r.causes⟩

def underCluster {ζ : Type} (r : Report ClusterError) (error : ζ) : Report ζ :=
  r.under .cluster error

/-- The failed daemon call closest to the error. -/
def daemonError? (r : Report SyncError) : Option DaemonError :=
  r.causes.findSome? fun c => match c with
    | .daemon e => some e
    | _ => none

/-- What the status of a workload shows of the failure: the daemon's part if it has one. -/
def summary (r : Report SyncError) : String :=
  (r.daemonError?.map DaemonError.message).getD r.error.message

end Report

end CachePartition
