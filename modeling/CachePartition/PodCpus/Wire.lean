/-! The wire format of protocol buffers: a message is a row of fields, each with a number, a type and a
payload. Fields nobody asks for are skipped, groups of fields too. -/
namespace CachePartition.Wire

abbrev Bytes := List UInt8

/-- A field of a message. Only payloads that a message of this program may have are kept. -/
inductive Field where
  | varint (number : Nat) (value : Nat)
  | bytes (number : Nat) (payload : Bytes)
  /-- A field of eight or four bytes, or a group. -/
  | skipped (number : Nat)
  deriving DecidableEq, Repr

/-- Seven bits a byte, the low ones first; the high bit says that more follow. -/
def writeVarint (n : Nat) : Bytes :=
  if n < 128 then [.ofNat n] else .ofNat (n % 128 + 128) :: writeVarint (n / 128)
termination_by n

/-- The bytes before the payload of a field whose payload tells its length. -/
def bytesKey (number : Nat) : Bytes := writeVarint (number * 8 + 2)

def writeBytes (number : Nat) (payload : Bytes) : Bytes :=
  bytesKey number ++ writeVarint payload.length ++ payload

/-- Reads a number of 64 bits that starts after `shift` bits of value `value`. -/
def readVarintFrom? : Nat → Nat → Bytes → Option (Nat × Bytes)
  | _, _, [] => none
  | shift, value, b :: rest =>
    let value := value + (b.toNat % 128) <<< shift
    if b.toNat < 128 then
      if shift = 63 ∧ 2 ≤ b.toNat then none else some (value, rest)
    else if shift = 63 then none
    else readVarintFrom? (shift + 7) value rest

def readVarint? (s : Bytes) : Option (Nat × Bytes) := readVarintFrom? 0 0 s

/-- The number and the type of a field. -/
def readKey? (s : Bytes) : Option (Nat × Nat × Bytes) :=
  match readVarint? s with
  | some (key, rest) =>
    if key < 1 <<< 32 ∧ 0 < key / 8 ∧ key % 8 < 6 then some (key / 8, key % 8, rest) else none
  | none => none

def take? (n : Nat) (s : Bytes) : Option (Bytes × Bytes) :=
  if n ≤ s.length then some (s.take n, s.drop n) else none

def readPayload? (s : Bytes) : Option (Bytes × Bytes) :=
  match readVarint? s with
  | some (n, rest) => take? n rest
  | none => none

/-- A payload that is no group, by its type. -/
def readPlain? (number type : Nat) (s : Bytes) : Option (Field × Bytes) :=
  match type with
  | 0 => (readVarint? s).map fun p => (.varint number p.1, p.2)
  | 1 => (take? 8 s).map fun p => (.skipped number, p.2)
  | 2 => (readPayload? s).map fun p => (.bytes number p.1, p.2)
  | 5 => (take? 4 s).map fun p => (.skipped number, p.2)
  | _ => none

/-- Skips fields up to the end of the outermost of the groups that are open, given by their numbers,
the innermost first. No more than `depth` may be open, and the last of them holds no field. -/
def skipGroups? (depth : Nat) : Nat → List Nat → Bytes → Option Bytes
  | 0, _, _ => none
  | _, [], s => some s
  | fuel + 1, number :: opened, s =>
    match readKey? s with
    | none => none
    | some (n, 4, rest) =>
      if n = number then skipGroups? depth fuel opened rest else none
    | some (n, type, rest) =>
      if depth ≤ opened.length + 1 then none
      else if type = 3 then skipGroups? depth fuel (n :: number :: opened) rest
      else
        match readPlain? n type rest with
        | some (_, rest) => skipGroups? depth fuel (number :: opened) rest
        | none => none

/-- One field of a message in which groups may nest `depth` deep. -/
def readField? (depth : Nat) (s : Bytes) : Option (Field × Bytes) :=
  match readKey? s with
  | none => none
  | some (n, type, rest) =>
    if type = 3 then
      if depth = 0 then none
      else (skipGroups? depth (rest.length + 2) [n] rest).map fun rest => (.skipped n, rest)
    else readPlain? n type rest

def readFieldsFrom? (depth : Nat) : Nat → Bytes → Option (List Field)
  | _, [] => some []
  | 0, _ => none
  | fuel + 1, s =>
    match readField? depth s with
    | some (f, rest) => (readFieldsFrom? depth fuel rest).map (f :: ·)
    | none => none

/-- The fields of a message. Each takes a byte at least, so the fuel lasts. -/
def readFields? (depth : Nat) (s : Bytes) : Option (List Field) := readFieldsFrom? depth s.length s

/-- Numbers of 64 bits one after the other. -/
def readPackedFrom? : Nat → Bytes → Option (List Nat)
  | _, [] => some []
  | 0, _ => none
  | fuel + 1, s =>
    match readVarint? s with
    | some (n, rest) => (readPackedFrom? fuel rest).map (n :: ·)
    | none => none

def readPacked? (s : Bytes) : Option (List Nat) := readPackedFrom? s.length s

def textBytes (s : String) : Bytes := s.toUTF8.data.toList

def text? (s : Bytes) : Option String := String.fromUTF8? ⟨s.toArray⟩

def Field.number : Field → Nat
  | .varint n _ => n
  | .bytes n _ => n
  | .skipped n => n

def Field.text? : Field → Option String
  | .bytes _ payload => Wire.text? payload
  | _ => none

/-- One number, or several packed into one payload. -/
def Field.int64s? : Field → Option (List Int64)
  | .varint _ v => some [.ofNat v]
  | .bytes _ payload => (readPacked? payload).map fun l => l.map .ofNat
  | .skipped _ => none

end CachePartition.Wire
