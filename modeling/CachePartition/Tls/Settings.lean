import CachePartition.Failure
import CachePartition.Naming
import CachePartition.Tls.Library

/-! What TLS connections to daemons are set up from: a certificate with its key, and the certificates
that daemons are checked against. A weak or doubtful set is refused as a whole. -/
namespace CachePartition

/-- Where the files are. -/
structure TlsPaths where
  certificate : String := "/etc/certs/public/cert.pem"
  key : String := "/etc/certs/public/key.pem"
  anchors : String := "/etc/certs/public/ca.pem"
  deriving DecidableEq, Repr

/-- The content of files by path; none for a file that cannot be read. -/
abbrev Files := String → Option (List UInt8)

/-- Why there are no settings. -/
inductive TlsError where
  | reading (path : String)
  | parsing (path : String)
  | noCertificate
  | malformedCertificate
  | malformedKey
  | unsupportedKey
  | weakKey (k : PublicKey)
  | invalidAnchor
  | noCheck
  | serverName
  | versions
  /-- The key cannot be used, or is not the one that is certified. -/
  | unusableKey
  deriving DecidableEq, Repr

def TlsError.message : TlsError → String
  | reading path => "reading " ++ path
  | parsing path => "parsing " ++ path
  | noCertificate => "client certificate file holds no certificate"
  | malformedCertificate => "parsing client certificate"
  | malformedKey => "parsing client public key"
  | unsupportedKey => "unsupported client key type"
  | weakKey k => k.weakness
  | invalidAnchor => "invalid CA certificate"
  | noCheck => "building server verifier"
  | serverName => "invalid daemon server name"
  | versions => "selecting protocol versions"
  | unusableKey => "loading client certificate and key"

/-- The only suites that are spoken: for TLS 1.3, and for TLS 1.2 with keys made for each connection. -/
def pinnedSuites : List CipherSuite := [0x1302, 0x1301, 0xc02c, 0xc030, 0xc02b, 0xc02f]

namespace TlsLibrary

variable (lib : TlsLibrary) (files : Files)

def readFile (path : String) : Except TlsError (List UInt8) :=
  match files path with
  | some content => .ok content
  | none => .error (.reading path)

/-- Takes certificates one after the other, up to the first that is broken or not accepted. -/
def gather (path : String) (accepts : List UInt8 → Bool) :
    List (Option (List UInt8)) → Except TlsError (List (List UInt8))
  | [] => .ok []
  | none :: _ => .error (.parsing path)
  | some c :: rest =>
    if accepts c then (gather path accepts rest).map (c :: ·) else .error .invalidAnchor

/-- The certificates of a file, each of which has to be whole and accepted. -/
def readCertificates (accepts : List UInt8 → Bool) (path : String) : Except TlsError (List (List UInt8)) := do
  gather path accepts (lib.certificates (← readFile files path))

/-- The first key of a file. -/
def readKey (path : String) : Except TlsError PrivateKey := do
  match lib.key? (← readFile files path) with
  | some key => .ok key
  | none => .error (.reading path)

/-- Refuses a certificate whose key is not known to be strong. -/
def checkStrength (certificate : List UInt8) : Except TlsError Unit :=
  match lib.publicKey certificate with
  | .error .certificate => .error .malformedCertificate
  | .error .key => .error .malformedKey
  | .ok none => .error .unsupportedKey
  | .ok (some k) => if k.isStrong then .ok () else .error (.weakKey k)

/-- The settings for what the files hold. -/
def settings (chain : List (List UInt8)) (key : PrivateKey) (anchors : List (List UInt8)) : TlsSettings where
  chain
  key
  anchors
  serverName := daemonServerName
  suites := lib.suites.filter (· ∈ pinnedSuites)
  versions := [.tls13, .tls12]

/-- Takes settings into use. -/
def adopt (s : TlsSettings) : Except TlsError TlsSettings :=
  if !lib.checks s.anchors s.suites then .error .noCheck
  else if !lib.isServerName s.serverName then .error .serverName
  else if !lib.speaks s.versions s.suites then .error .versions
  else if lib.signs s.chain s.key then .ok s
  else .error .unusableKey

def load (paths : TlsPaths) : Except TlsError TlsSettings := do
  let chain ← lib.readCertificates files (fun _ => true) paths.certificate
  match chain.head? with
  | none => .error .noCertificate
  | some leaf =>
    lib.checkStrength leaf
    let key ← lib.readKey files paths.key
    let anchors ← lib.readCertificates files lib.isAnchor paths.anchors
    lib.adopt (lib.settings chain key anchors)

end TlsLibrary

end CachePartition
