import CachePartition.Failure
import CachePartition.PodCpus.Codec

/-! Listing pinned CPUs over the socket of the node's agent. -/
namespace CachePartition

/-- What comes of a listing call on a socket. -/
inductive SocketReply where
  /-- There is nothing to connect to. -/
  | absent
  /-- The call ended with a status other than zero. -/
  | status (code : Nat)
  | message (payload : Wire.Bytes)
  deriving DecidableEq, Repr

/-- The pods listed over a socket at a path. -/
def listPodCpus (path : String) : SocketReply → Except IntrospectionError (List PodCpus)
  | .absent => .error (.connect path)
  | .status _ => .error .list
  | .message payload => (PodCpus.readListing? payload).elim (.error .list) .ok

end CachePartition
