/-! Base64: six bits a character, padded to groups of four. -/
namespace CachePartition.Base64

/-- Bytes between which a text may be broken. -/
def isSpace (b : UInt8) : Bool := (0x09 ≤ b && b ≤ 0x0d) || b = 0x20

def pad : UInt8 := 0x3d

/-- The six bits of a character. -/
def value? (b : UInt8) : Option Nat :=
  if 0x41 ≤ b && b ≤ 0x5a then some (b.toNat - 0x41)
  else if 0x61 ≤ b && b ≤ 0x7a then some (b.toNat - 0x61 + 26)
  else if 0x30 ≤ b && b ≤ 0x39 then some (b.toNat - 0x30 + 52)
  else if b = 0x2b then some 62
  else if b = 0x2f then some 63
  else none

/-- The bytes of groups of four values; the last group may lack one or two. -/
def join? : List Nat → Option (List UInt8)
  | [] => some []
  | [_] => none
  | [a, b] => some [.ofNat (a * 4 + b / 16)]
  | [a, b, c] => some [.ofNat (a * 4 + b / 16), .ofNat (b * 16 + c / 4)]
  | a :: b :: c :: d :: rest =>
    (join? rest).map fun l =>
      .ofNat (a * 4 + b / 16) :: .ofNat (b * 16 + c / 4) :: .ofNat (c * 64 + d) :: l

def decode? (s : List UInt8) : Option (List UInt8) :=
  let text := s.filter fun b => !isSpace b
  let padding := text.dropWhile (· ≠ pad)
  if text.length % 4 = 0 ∧ padding.length ≤ 2 ∧ padding.all (· = pad) then
    ((text.takeWhile (· ≠ pad)).mapM value?).bind join?
  else none

end CachePartition.Base64
