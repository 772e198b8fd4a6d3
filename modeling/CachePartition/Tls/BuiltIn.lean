import CachePartition.Tls.Pem
import CachePartition.Tls.PrivateKey

/-! A stand-in for the libraries that read certificates and keys. It makes no connections, and nothing that holds of
clients rests on it. -/
namespace CachePartition

namespace TlsLibrary

/-- The version that a suite is for. -/
def versionOf (suite : CipherSuite) : TlsVersion := if suite / 256 = 0x13 then .tls13 else .tls12

/-- Whether a key is the one that a certificate is for. -/
def fits (key : PrivateKey) (certificate : List UInt8) : Bool :=
  match key.certified? with
  | some k => Certificate.usableKey? certificate = some k
  | none => false

/-- Whether a text is a label in the name of a host. -/
def isLabel (label : List Char) : Bool :=
  !label.isEmpty && label.length ≤ 63 && label.all fun c => c.isAlphanum || c = '-' || c = '_'

def builtIn : TlsLibrary where
  certificates content := (Pem.read content).certificates
  key? content := (Pem.read content).key?
  publicKey := SubjectKey.read
  isAnchor := Certificate.isAnchor
  suites := [0x1302, 0x1301, 0x1303, 0xc02c, 0xc02b, 0xcca9, 0xc030, 0xc02f, 0xcca8]
  checks anchors _ := !anchors.isEmpty
  isServerName name := (name.toList.splitOnP (· = '.')).all isLabel
  speaks versions suites := suites.any fun s => versionOf s ∈ versions
  signs chain key := chain.head?.any (fits key)
  builds _ := true

theorem builtIn_needsAnchors : builtIn.NeedsAnchors := fun _ => rfl

theorem builtIn_builds : builtIn.Builds := fun _ => rfl

end TlsLibrary

end CachePartition
