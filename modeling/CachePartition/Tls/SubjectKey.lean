import CachePartition.Tls.Certificate
import CachePartition.Tls.Library

/-! Reads the keys in certificates, as far as it takes to tell their kinds and sizes. -/
namespace CachePartition.SubjectKey

def rsaId : List UInt8 := [0x2a, 0x86, 0x48, 0x86, 0xf7, 0x0d, 0x01, 0x01, 0x01]

def ecId : List UInt8 := [0x2a, 0x86, 0x48, 0xce, 0x3d, 0x02, 0x01]

/-- The size that the bytes of a modulus stand for: the first one is taken to be a sign. -/
def modulusBits : List UInt8 → Nat
  | [] => 0
  | b :: rest => if b < 0x80 then rest.length * 8 else 0

/-- The size that the bytes of a point stand for, whole or compressed. -/
def pointBits : List UInt8 → Nat
  | [] => 0
  | b :: rest =>
    if b = 4 then rest.length * 8 / 2
    else if b = 2 || b = 3 then rest.length * 8
    else 0

/-- The modulus of a key that is a modulus and an exponent. -/
def modulus? (key : List UInt8) : Option (List UInt8) := do
  match ← Der.row? (← Der.only? Der.sequence key) with
  | [n, e] => if n.tag = Der.integer && e.tag = Der.integer then some n.content else none
  | _ => none

/-- The id of the algorithm and the key, from the content of the element that holds them. -/
def parts? (s : List UInt8) : Option (List UInt8 × List UInt8) := do
  match ← Der.row? s with
  | [algorithm, key] => some (← Certificate.algorithmId? algorithm, ← key.bitsOf?)
  | _ => none

/-- The key under the id of an algorithm. -/
def ofParts (id key : List UInt8) : Except CertificateFault (Option PublicKey) :=
  if id = rsaId then
    match modulus? key with
    | some n => .ok (some ⟨.rsa, modulusBits n⟩)
    | none => .error .key
  else if id = ecId then .ok (some ⟨.ec, pointBits key⟩)
  else .ok none

/-- The key of the first certificate in a text. -/
def read (s : List UInt8) : Except CertificateFault (Option PublicKey) :=
  match (Certificate.read? s).bind fun c => parts? c.1.publicKey with
  | some (id, key) => ofParts id key
  | none => .error .certificate

end CachePartition.SubjectKey
