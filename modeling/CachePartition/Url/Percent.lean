import CachePartition.Text.Numeral
import CachePartition.Text.Utf8

/-! Percent-encoding. -/
namespace CachePartition.Url

open Text

def upperHex (n : Nat) : Char := (Nat.digitChar n).toUpper

def encodeByte (b : UInt8) : List Char := ['%', upperHex (b.toNat / 16), upperHex (b.toNat % 16)]

/-- Writes a character as such or, if `reserved` says so, byte by byte. Nothing outside ASCII is
written as such. -/
def encodeChar (reserved : Char → Bool) (c : Char) : List Char :=
  if 0x7e < c.toNat || c.toNat < 0x20 || reserved c then (utf8Bytes [c]).flatMap encodeByte else [c]

def encode (reserved : Char → Bool) (s : List Char) : List Char := s.flatMap (encodeChar reserved)

/-- Characters that a path does not hold as such. -/
def pathReserved (c : Char) : Bool :=
  c ∈ [' ', '"', '#', '<', '>', '?', '\x60', '\x7b', '\x7d']

/-- Characters that a query of a special scheme does not hold as such. -/
def queryReserved (c : Char) : Bool := c ∈ [' ', '"', '#', '<', '>', '\'']

/-- Reads pairs of hexadecimal digits after a percent sign as bytes and all else as UTF-8. -/
def decode : List Char → List UInt8
  | [] => []
  | '%' :: a :: b :: rest =>
    match digitValue? 16 a, digitValue? 16 b with
    | some x, some y => .ofNat (x * 16 + y) :: decode rest
    | _, _ => utf8Bytes ['%'] ++ decode (a :: b :: rest)
  | c :: rest => utf8Bytes [c] ++ decode rest

end CachePartition.Url
