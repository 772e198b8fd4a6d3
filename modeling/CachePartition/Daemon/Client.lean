import CachePartition.Daemon.Connection
import CachePartition.Tls.BuiltIn

/-! The clients of daemons that are had with the library at hand. -/
namespace CachePartition

namespace DaemonClient

def withTls (files : Files) (paths : TlsPaths) : Except DaemonError DaemonClient :=
  TlsLibrary.builtIn.withTls files paths

/-- A client for the daemons of a set. There always is one. -/
def ofDaemonSet (d : DaemonSet) (files : Files) (paths : TlsPaths) : DaemonClient :=
  match told : TlsLibrary.builtIn.ofDaemonSet d files paths with
  | .ok c => c
  | .error _ => nomatch told.symm.trans (TlsLibrary.builtIn_builds.ofDaemonSet_eq d files paths)

theorem builtIn_ofDaemonSet (d : DaemonSet) (files : Files) (paths : TlsPaths) :
    TlsLibrary.builtIn.ofDaemonSet d files paths = .ok (ofDaemonSet d files paths) := by
  unfold ofDaemonSet
  split
  · assumption
  · next failed => cases failed.symm.trans (TlsLibrary.builtIn_builds.ofDaemonSet_eq d files paths)

end DaemonClient

end CachePartition
