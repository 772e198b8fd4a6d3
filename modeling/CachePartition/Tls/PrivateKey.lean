import CachePartition.Tls.Curve
import CachePartition.Tls.SubjectKey

/-! Private keys that can sign, each as the certified key that it fits. A key whose parts do not fit
each other is none. -/
namespace CachePartition

/-- A key of two primes, with what speeds up its use. -/
structure RsaKey where
  modulus : Nat
  exponent : Nat
  secret : Nat
  /-- The first prime. -/
  p : Nat
  /-- The second prime. -/
  q : Nat
  /-- The secret modulo one less than the first prime. -/
  secretP : Nat
  /-- The secret modulo one less than the second prime. -/
  secretQ : Nat
  /-- The inverse of the second prime modulo the first one. -/
  inverse : Nat
  deriving DecidableEq, Repr

namespace RsaKey

/-- Reads the numbers of a key, which follow the version zero. -/
def read? (s : List UInt8) : Option RsaKey := do
  match ← (← Der.row? (← Der.only? Der.sequence s)).mapM Der.nat? with
  | [0, n, e, d, p, q, secretP, secretQ, inverse] => some ⟨n, e, d, p, q, secretP, secretQ, inverse⟩
  | _ => none

/-- The number of bits of each prime. -/
def half (k : RsaKey) : Nat := (Der.bitLength k.modulus + 1) / 2

/-- Whether a number is a factor of the right size, with a secret that belongs to it. -/
def isFactor (k : RsaKey) (p secret : Nat) : Bool :=
  Der.bitLength p = k.half && p % 2 = 1 && secret < p && secret % 2 = 1

/-- Whether the numbers are of a size to be used and fit each other. -/
def isUsable (k : RsaKey) : Bool :=
  2040 < Der.bitLength k.modulus && Der.bitLength k.modulus ≤ 4096 && k.half % 512 = 0 &&
    k.exponent % 2 = 1 && 65537 ≤ k.exponent && k.exponent < 1 <<< 33 &&
    k.isFactor k.p k.secretP && k.isFactor k.q k.secretQ && k.p * k.q = k.modulus &&
    k.secret % 2 = 1 && k.half < Der.bitLength k.secret && k.secret < k.modulus &&
    k.inverse < k.p && k.inverse * k.q % k.p = 1

end RsaKey

namespace PrivateKey

open Der

/-- The content of the element that tells the algorithm. -/
def rsaAlgorithm : List UInt8 := write ⟨objectId, SubjectKey.rsaId⟩ ++ write ⟨null, []⟩

def ecAlgorithm (curveId : List UInt8) : List UInt8 :=
  write ⟨objectId, SubjectKey.ecId⟩ ++ write ⟨objectId, curveId⟩

/-- The content of the element of a certified key. -/
def certified (algorithm key : List UInt8) : List UInt8 :=
  write ⟨sequence, algorithm⟩ ++ write (ofBytes key)

def rsa? (s : List UInt8) : Option (List UInt8) := do
  let k ← (RsaKey.read? s).filter RsaKey.isUsable
  some (certified rsaAlgorithm
    (write (ofRow sequence [.ofNat k.modulus, .ofNat k.exponent])))

/-- The curves of keys, with their ids. -/
def curves : List (List UInt8 × Curve) :=
  [([0x2a, 0x86, 0x48, 0xce, 0x3d, 0x03, 0x01, 0x07], .p256), ([0x2b, 0x81, 0x04, 0x00, 0x22], .p384)]

/-- A point as bytes, not compressed. -/
def pointBytes (size : Nat) (p : Nat × Nat) : List UInt8 :=
  4 :: bytesOfNat size p.1 ++ bytesOfNat size p.2

/-- The public point that a key on a curve holds, if it belongs to the secret number. -/
def point? (c : Curve) (secret : List UInt8) (held : Der) : Option (List UInt8) := do
  match ← held.inside? (context 1) with
  | [bits] =>
    let point ← bits? bits
    let n := natOfBytes secret
    if secret.length = c.size && 0 < n && n < c.order &&
        (c.publicPoint n).map (pointBytes c.size) = some point then some point
    else none
  | _ => none

/-- The public point of a key on a curve, which may name the curve again. -/
def curvePoint? (id : List UInt8) (c : Curve) (s : List UInt8) : Option (List UInt8) := do
  match ← row? (← only? sequence s) with
  | [version, secret, held] =>
    if version.nat? = some 1 && secret.tag = octetString then point? c secret.content held
    else none
  | [version, secret, name, held] =>
    if version.nat? = some 1 && secret.tag = octetString && name.tag = context 0 &&
        name.content = write ⟨objectId, id⟩ then point? c secret.content held
    else none
  | _ => none

def ec? (id : List UInt8) (c : Curve) (s : List UInt8) : Option (List UInt8) :=
  (curvePoint? id c s).map (certified (ecAlgorithm id))

/-- The algorithm of a wrapped key, and the key. -/
def unwrap? (s : List UInt8) : Option (List UInt8 × List UInt8) := do
  let isWrapped (version algorithm key : Der) : Bool :=
    version.nat? = some 0 && algorithm.tag = sequence && key.tag = octetString
  match ← row? (← only? sequence s) with
  | [version, algorithm, key] =>
    if isWrapped version algorithm key then some (algorithm.content, key.content) else none
  | [version, algorithm, key, attributes] =>
    if isWrapped version algorithm key && attributes.tag = context 0 then
      some (algorithm.content, key.content)
    else none
  | _ => none

/-- The certified key that fits a key. -/
def certified? (k : PrivateKey) : Option (List UInt8) :=
  match k.form with
  | .rsa => rsa? k.content
  | .ec => curves.findSome? fun c => ec? c.1 c.2 k.content
  | .wrapped => do
    let (algorithm, key) ← unwrap? k.content
    if algorithm = rsaAlgorithm then rsa? key
    else (curves.find? fun c => ecAlgorithm c.1 = algorithm).bind fun c => ec? c.1 c.2 key

end PrivateKey

end CachePartition
