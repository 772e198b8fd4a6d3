import CachePartition.Kubernetes.DaemonSet
import CachePartition.Reconcile.Address
import CachePartition.Tls.Settings

/-! Clients of daemons: plain ones, and ones that show a certificate and check the daemon's. -/
namespace CachePartition

structure DaemonClient where
  tls : Option TlsSettings := none
  deriving DecidableEq, Repr

namespace DaemonClient

def plain : DaemonClient := {}

def isTls (c : DaemonClient) : Bool := c.tls.isSome

/-- How daemons are spoken to. -/
def scheme (c : DaemonClient) : Scheme := if c.isTls then .https else .http

end DaemonClient

namespace TlsLibrary

variable (lib : TlsLibrary)

/-- A client with settings, or one without. -/
def client (settings : Option TlsSettings) : Except DaemonError DaemonClient :=
  if lib.builds settings then .ok ⟨settings⟩ else .error .client

def withTls (files : Files) (paths : TlsPaths) : Except DaemonError DaemonClient :=
  match lib.load files paths with
  | .ok settings => lib.client (some settings)
  | .error e => .error (.tls e.message)

/-- A client for the daemons of a set. If they speak TLS and it can be set up the client does too;
else it is a plain one. -/
def ofDaemonSet (d : DaemonSet) (files : Files) (paths : TlsPaths) : Except DaemonError DaemonClient :=
  if d.port? = some (.ofInt daemonTlsPort) then
    match lib.withTls files paths with
    | .ok c => .ok c
    | .error _ => lib.client none
  else lib.client none

variable {lib}

theorem Builds.client_eq (h : lib.Builds) (settings : Option TlsSettings) : lib.client settings = .ok ⟨settings⟩ :=
  if_pos (h settings)

/-- Where clients can be built there is always one, which uses TLS if the daemons do and it can be set up. -/
theorem Builds.ofDaemonSet_eq (h : lib.Builds) (d : DaemonSet) (files : Files) (paths : TlsPaths) :
    lib.ofDaemonSet d files paths =
      .ok ⟨if d.port? = some (.ofInt daemonTlsPort) then (lib.load files paths).toOption else none⟩ := by
  unfold ofDaemonSet withTls
  split
  · cases lib.load files paths <;> simp [h.client_eq, Except.toOption]
  · exact h.client_eq none

end TlsLibrary

end CachePartition
