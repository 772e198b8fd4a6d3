import CachePartition.Text.Search
import CachePartition.Url.Basic
import CachePartition.Url.Percent

/-! Reading hosts: addresses of both protocols, and domain names. Names are not mapped beyond small
letters. -/
namespace CachePartition.Url

open Text

/-- Cuts a text at each occurrence of a character. -/
def splitAt (sep : Char) (s : List Char) : List (List Char) :=
  s.foldr (fun c acc =>
    if c = sep then [] :: acc
    else match acc with
      | [] => [[c]]
      | part :: rest => (c :: part) :: rest) [[]]

/-- A number in decimal, octal after `0`, or hexadecimal after `0x`; the empty text is zero. -/
def readIpv4Number? (s : List Char) : Option Nat :=
  let digits : Nat × List Char :=
    match s with
    | '0' :: 'x' :: rest => (16, rest)
    | '0' :: 'X' :: rest => (16, rest)
    | '0' :: c :: rest => (8, c :: rest)
    | s => (10, s)
  digits.2.foldlM (fun n c => (digitValue? digits.1 c).map fun d => n * digits.1 + d) 0

/-- The labels of a name, without an empty one at its end. -/
def labels (s : List Char) : List (List Char) :=
  let parts := splitAt '.' s
  if 1 < parts.length ∧ parts.getLast? = some [] then parts.dropLast else parts

/-- Whether the last label is a number, so that the name has to be an address. -/
def endsInNumber (s : List Char) : Bool :=
  match (labels s).getLast? with
  | none => false
  | some label =>
    (!label.isEmpty && label.all isDigit) ||
      ((label.take 2 = ['0', 'x'] || label.take 2 = ['0', 'X']) &&
        (label.drop 2).all fun c => (digitValue? 16 c).isSome)

/-- The numbers of all labels as one: each but the last is a byte, the last fills what is left. -/
def readIpv4? (s : List Char) : Option Nat := do
  let parts := labels s
  if 4 < parts.length ∨ parts.any List.isEmpty then none
  else
    let numbers ← parts.mapM readIpv4Number?
    let last ← numbers.getLast?
    let bytes := numbers.dropLast
    let room := 4 - bytes.length
    if bytes.any (255 < ·) ∨ 1 <<< (8 * room) ≤ last then none
    else some (bytes.foldl (fun n b => n * 256 + b) 0 <<< (8 * room) + last)

/-- A group of up to four hexadecimal digits. -/
def readGroup? (s : List Char) : Option Nat :=
  if s.isEmpty ∨ 4 < s.length then none
  else s.foldlM (fun n c => (digitValue? 16 c).map fun d => n * 16 + d) 0

/-- A byte in decimal without leading zeros. -/
def readDecimalByte? (s : List Char) : Option Nat :=
  if s.isEmpty ∨ !s.all isDigit ∨ 3 < s.length ∨ (s.head? = some '0' ∧ 1 < s.length) then none
  else
    let n := s.foldl (fun n c => n * 10 + (c.toNat - '0'.toNat)) 0
    if n < 256 then some n else none

/-- Four bytes with points between them, as two groups. -/
def readEmbeddedIpv4? (s : List Char) : Option (List Nat) := do
  match ← (splitAt '.' s).mapM readDecimalByte? with
  | [a, b, c, d] => some [a * 256 + b, c * 256 + d]
  | _ => none

/-- Groups with colons between them; the last may be four bytes if `atEnd` holds. -/
def readGroups? (atEnd : Bool) (s : List Char) : Option (List Nat) :=
  if s.isEmpty then some []
  else do
    let parts := splitAt ':' s
    let last ← parts.getLast?
    let init ← parts.dropLast.mapM readGroup?
    let tail ← if atEnd ∧ '.' ∈ last then readEmbeddedIpv4? last
      else (readGroup? last).map fun g => [g]
    some (init ++ tail)

/-- Eight groups, or fewer with a double colon for the missing ones. -/
def readIpv6? (s : List Char) : Option Nat := do
  let groups ← match splitOnce? [':', ':'] s with
    | none => readGroups? true s
    | some (before, after) =>
      match readGroups? false before, readGroups? true after with
      | some a, some b =>
        if a.length + b.length < 8 then
          some (a ++ List.replicate (8 - a.length - b.length) 0 ++ b)
        else none
      | _, _ => none
  if groups.length = 8 then some (groups.foldl (fun n g => n * 65536 + g) 0) else none

def forbiddenInHost : List Char :=
  ['\x00', '\t', '\n', '\r', ' ', '#', '/', ':', '<', '>', '?', '@', '[', '\\', ']', '^', '|']

def isForbiddenInDomain (c : Char) : Bool :=
  c ∈ forbiddenInHost || c = '%' || c.toNat < 0x20 || c.toNat = 0x7f || c = replacement

def readBracketed? (s : List Char) : Option Host :=
  if s.getLast? = some ']' then (readIpv6? s.dropLast).map .ipv6 else none

/-- The host of a scheme with rules for hosts. -/
def readHost? : List Char → Option Host
  | '[' :: rest => readBracketed? rest
  | s =>
    let name := (utf8Lossy none (decode s)).map Char.toLower
    if name.isEmpty ∨ name.any isForbiddenInDomain then none
    else if endsInNumber name then (readIpv4? name).map .ipv4
    else some (.domain (String.ofList name))

/-- The host of any other scheme; empty if there is none. -/
def readOpaqueHost? : List Char → Option Host
  | '[' :: rest => readBracketed? rest
  | s =>
    if s.any (· ∈ forbiddenInHost) then none
    else some (.opaqueText (String.ofList (encode (fun _ => false) s)))

end CachePartition.Url
