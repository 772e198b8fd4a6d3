import CachePartition.Text.Numeral

/-! URLs that name a host. -/
namespace CachePartition

inductive Host where
  | domain (name : String)
  | ipv4 (address : Nat)
  | ipv6 (address : Nat)
  /-- The host of a scheme that has no rules for hosts. -/
  | opaqueText (text : String)
  deriving DecidableEq, Repr

structure Url where
  scheme : String
  host : Option Host
  /-- The port, unless it is the scheme's own. -/
  port : Option Nat
  path : List Char
  query : Option (List Char)
  deriving DecidableEq, Repr

namespace Url

/-- Schemes whose URLs have a host, with their ports. -/
def specialPorts : List (String × Nat) :=
  [("http", 80), ("https", 443), ("ws", 80), ("wss", 443), ("ftp", 21)]

def defaultPort? (scheme : String) : Option Nat :=
  (specialPorts.find? fun e => e.1 = scheme).map (·.2)

/-- Path and query as they go over the wire. -/
def target (u : Url) : String :=
  String.ofList (u.path ++ u.query.elim [] fun q => '?' :: q)

end Url

end CachePartition
