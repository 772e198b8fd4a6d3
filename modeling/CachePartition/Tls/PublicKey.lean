import CachePartition.Text.Numeral

/-! Certified keys: their kinds, sizes and the least sizes that are strong. -/
namespace CachePartition

inductive KeyKind where
  | rsa
  | ec
  deriving DecidableEq, Repr

namespace KeyKind

def name : KeyKind → String
  | rsa => "RSA"
  | ec => "ECDSA"

/-- The least number of bits of a strong key. -/
def leastBits : KeyKind → Nat
  | rsa => 2048
  | ec => 256

end KeyKind

/-- A key of a kind with a size in bits. -/
structure PublicKey where
  kind : KeyKind
  bits : Nat
  deriving DecidableEq, Repr

namespace PublicKey

def isStrong (k : PublicKey) : Bool := k.kind.leastBits ≤ k.bits

/-- What is wrong with a weak key. -/
def weakness (k : PublicKey) : String :=
  k.kind.name ++ " key of " ++ Text.decimal k.bits ++ " bits is below the " ++
    Text.decimal k.kind.leastBits ++ "-bit minimum"

end PublicKey

end CachePartition
