/-! The distinguished encoding of structured data: elements of a tag, a length and content, the length
in the fewest bytes. -/
namespace CachePartition

/-- An element; the content of some is a row of elements in turn. -/
structure Der where
  tag : UInt8
  content : List UInt8
  deriving DecidableEq, Repr

namespace Der

def boolean : UInt8 := 0x01
def integer : UInt8 := 0x02
def bitString : UInt8 := 0x03
def octetString : UInt8 := 0x04
def null : UInt8 := 0x05
def objectId : UInt8 := 0x06
def sequence : UInt8 := 0x30
def set : UInt8 := 0x31

/-- The tag of a field that its number in the context tells, with an element inside. -/
def context (n : UInt8) : UInt8 := 0xa0 + n

/-- The number that bytes stand for, the high one first. -/
def natOfBytes (s : List UInt8) : Nat := s.foldl (fun n b => n * 256 + b.toNat) 0

/-- The lowest `size` bytes of a number. -/
def bytesOfNat (size n : Nat) : List UInt8 :=
  match size with
  | 0 => []
  | size + 1 => bytesOfNat size (n / 256) ++ [.ofNat n]

/-- The number of bits of a number. -/
def bitLength (n : Nat) : Nat := if n = 0 then 0 else n.log2 + 1

/-- A length in the fewest bytes, of which there are four at most. -/
def readLength? : List UInt8 → Option (Nat × List UInt8)
  | [] => none
  | b :: rest =>
    if b < 0x80 then some (b.toNat, rest)
    else
      let size := b.toNat - 0x80
      let digits := rest.take size
      let n := natOfBytes digits
      if 1 ≤ size ∧ size ≤ 4 ∧ digits.length = size ∧ 0x80 ≤ n ∧ 1 <<< (8 * (size - 1)) ≤ n then
        some (n, rest.drop size)
      else none

/-- The first element and what follows it. Tags are of one byte. -/
def read? : List UInt8 → Option (Der × List UInt8)
  | [] => none
  | tag :: rest =>
    if tag % 32 = 31 then none
    else
      match readLength? rest with
      | some (n, rest) =>
        if n ≤ rest.length then some (⟨tag, rest.take n⟩, rest.drop n) else none
      | none => none

def readRow? : Nat → List UInt8 → Option (List Der)
  | _, [] => some []
  | 0, _ => none
  | fuel + 1, s =>
    match read? s with
    | some (e, rest) => (readRow? fuel rest).map (e :: ·)
    | none => none

/-- A row of elements and nothing else. Each takes a byte at least, so the fuel lasts. -/
def row? (s : List UInt8) : Option (List Der) := readRow? s.length s

/-- A single element of a tag. -/
def only? (tag : UInt8) (s : List UInt8) : Option (List UInt8) :=
  match read? s with
  | some (e, []) => if e.tag = tag then some e.content else none
  | _ => none

/-- The elements inside an element of a tag. -/
def inside? (tag : UInt8) (e : Der) : Option (List Der) :=
  if e.tag = tag then row? e.content else none

/-- An integer that is not negative, without needless bytes. -/
def nat? (e : Der) : Option Nat :=
  if e.tag = integer then
    match e.content with
    | [] => none
    | [b] => if b < 0x80 then some b.toNat else none
    | 0 :: b :: rest => if 0x80 ≤ b then some (natOfBytes (b :: rest)) else none
    | b :: rest => if b < 0x80 then some (natOfBytes (b :: rest)) else none
  else none

/-- The bytes of a bit string, whatever its last bits are. -/
def bitsOf? (e : Der) : Option (List UInt8) :=
  if e.tag = bitString then
    match e.content with
    | unused :: bytes => if unused < 8 then some bytes else none
    | [] => none
  else none

/-- The bytes of a bit string of whole bytes. -/
def bits? (e : Der) : Option (List UInt8) :=
  if e.tag = bitString then
    match e.content with
    | 0 :: bytes => some bytes
    | _ => none
  else none

def writeLength (n : Nat) : List UInt8 :=
  if n < 0x80 then [.ofNat n]
  else
    let size := (bitLength n + 7) / 8
    .ofNat (0x80 + size) :: bytesOfNat size n

def write (e : Der) : List UInt8 := e.tag :: writeLength e.content.length ++ e.content

def ofRow (tag : UInt8) (row : List Der) : Der := ⟨tag, row.flatMap write⟩

/-- A number with a byte to spare for its sign. -/
def ofNat (n : Nat) : Der := ⟨integer, bytesOfNat (bitLength n / 8 + 1) n⟩

def ofBytes (bytes : List UInt8) : Der := ⟨bitString, 0 :: bytes⟩

end Der

end CachePartition
