/-! Reading bytes as UTF-8 when they need not be: each longest run of bytes that starts no character
becomes one replacement character. -/
namespace CachePartition.Text

/-- The range of the byte after a leading byte, and the number of bytes after that one. -/
def utf8Lead? (b : Nat) : Option (Nat × Nat × Nat) :=
  if 0xc2 ≤ b ∧ b ≤ 0xdf then some (0x80, 0xbf, 0)
  else if b = 0xe0 then some (0xa0, 0xbf, 1)
  else if b = 0xed then some (0x80, 0x9f, 1)
  else if 0xe1 ≤ b ∧ b ≤ 0xef then some (0x80, 0xbf, 1)
  else if b = 0xf0 then some (0x90, 0xbf, 2)
  else if 0xf1 ≤ b ∧ b ≤ 0xf3 then some (0x80, 0xbf, 2)
  else if b = 0xf4 then some (0x80, 0x8f, 2)
  else none

/-- The bits of a leading byte. -/
def leadBits (b : Nat) : Nat :=
  if b < 0xe0 then b % 32 else if b < 0xf0 then b % 16 else b % 8

/-- A character that is not complete: its bits, the range of the next byte, the bytes after that. -/
structure Utf8Partial where
  bits : Nat
  low : Nat
  high : Nat
  more : Nat
  deriving DecidableEq, Repr

def replacement : Char := '\ufffd'

/-- Starts a character at a byte. -/
def utf8Start (b : Nat) : List Char × Option Utf8Partial :=
  if b < 0x80 then ([Char.ofNat b], none)
  else
    match utf8Lead? b with
    | some (low, high, more) => ([], some ⟨leadBits b, low, high, more⟩)
    | none => ([replacement], none)

/-- Reads one byte: the characters it completes and what it leaves open. -/
def utf8Step : Option Utf8Partial → Nat → List Char × Option Utf8Partial
  | none, b => utf8Start b
  | some p, b =>
    if p.low ≤ b ∧ b ≤ p.high then
      let bits := p.bits * 64 + b % 64
      match p.more with
      | 0 => ([Char.ofNat bits], none)
      | more + 1 => ([], some ⟨bits, 0x80, 0xbf, more⟩)
    else
      let next := utf8Start b
      (replacement :: next.1, next.2)

def utf8Lossy : Option Utf8Partial → List UInt8 → List Char
  | none, [] => []
  | some _, [] => [replacement]
  | p, b :: rest =>
    let r := utf8Step p b.toNat
    r.1 ++ utf8Lossy r.2 rest

/-- The text of bytes. -/
def ofUtf8Lossy (bytes : List UInt8) : String := String.ofList (utf8Lossy none bytes)

/-- The bytes of a text. -/
def utf8Bytes (s : List Char) : List UInt8 := (String.ofList s).toUTF8.data.toList

end CachePartition.Text
