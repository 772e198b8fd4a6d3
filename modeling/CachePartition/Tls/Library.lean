import CachePartition.Tls.PublicKey

/-! What is asked of the libraries that read certificates and keys and make connections. What they answer is left
open: this program only decides what to do with it. -/
namespace CachePartition

/-- How a private key is written: as one of a kind, or wrapped up with its kind. -/
inductive PrivateKeyForm where
  | rsa
  | ec
  | wrapped
  deriving DecidableEq, Repr

structure PrivateKey where
  form : PrivateKeyForm
  content : List UInt8
  deriving DecidableEq, Repr

/-- A cipher suite, by its number. -/
abbrev CipherSuite := UInt16

inductive TlsVersion where
  | tls12
  | tls13
  deriving DecidableEq, Repr

/-- The certificate shown to daemons with those that vouch for it, its key, the certificates that daemons are
checked against and the name they are checked for, and what is spoken. -/
structure TlsSettings where
  chain : List (List UInt8)
  key : PrivateKey
  anchors : List (List UInt8)
  serverName : String
  suites : List CipherSuite
  versions : List TlsVersion
  deriving DecidableEq, Repr

/-- Why the key of a certificate is not known: it is no certificate, or the key in it is broken. -/
inductive CertificateFault where
  | certificate
  | key
  deriving DecidableEq, Repr

structure TlsLibrary where
  /-- The certificates of a file in order; none in place of one that is broken. -/
  certificates : List UInt8 → List (Option (List UInt8))
  /-- The first private key of a file. -/
  key? : List UInt8 → Option PrivateKey
  /-- The key that a certificate is for, with its size; none if it is neither RSA nor on a curve. -/
  publicKey : List UInt8 → Except CertificateFault (Option PublicKey)
  /-- Whether others can be checked against a certificate. -/
  isAnchor : List UInt8 → Bool
  /-- The cipher suites there are. -/
  suites : List CipherSuite
  /-- Whether servers can be checked against certificates, with these suites. -/
  checks : List (List UInt8) → List CipherSuite → Bool
  /-- Whether servers can be checked for a name. -/
  isServerName : String → Bool
  /-- Whether these versions can be spoken with these suites. -/
  speaks : List TlsVersion → List CipherSuite → Bool
  /-- Whether a key can be used and is the one that the first of the certificates is for. -/
  signs : List (List UInt8) → PrivateKey → Bool
  /-- Whether a client can be built, with settings or without. -/
  builds : Option TlsSettings → Bool

namespace TlsLibrary

/-- Servers are not checked against nothing: without certificates there is no check to be had. -/
def NeedsAnchors (lib : TlsLibrary) : Prop := ∀ suites, lib.checks [] suites = false

/-- A client can always be built. -/
def Builds (lib : TlsLibrary) : Prop := ∀ settings, lib.builds settings = true

end TlsLibrary

end CachePartition
